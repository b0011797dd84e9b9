import LeakCheck.Proofs.List.Distinct
import LeakCheck.Text.Order
import LeakCheck.Text.Utf8
import Mathlib.Data.String.Basic

/-!
# The order of texts and of their bytes

Texts are compared by their characters. UTF-8 keeps the order of characters: more bytes begin with a
greater first byte, and among as many bytes the digits of the code point decide from the left
(`digits_lt`). So a text comes before another one iff its bytes do (`lt_iff_bytes_lt`). Texts that
are sorted and distinct ascend strictly in that order (`pairwise_sortedDistinct`).

Items may share a text, so to sort them by text leaves open which item stands where, but not which
text stands where: items that are arranged by text in two ways show the same texts
(`map_key_eq_of_perm`).
-/

namespace LeakCheck.Text

/-! ## The bytes of a text -/

/-- The loop that lists an array of bytes adds what follows from its place on. -/
theorem toList_loop (bytes : ByteArray) (place : Nat) (listed : List UInt8) :
    ByteArray.toList.loop bytes place listed =
      listed.reverse ++ bytes.data.toList.drop place := by
  have hlength : bytes.data.toList.length = bytes.size := rfl
  induction hleft : bytes.size - place generalizing place listed with
  | zero =>
    rw [ByteArray.toList.loop, if_neg (by omega), List.drop_eq_nil_of_le (by omega),
      List.append_nil]
  | succ left ih =>
    have hplace : place < bytes.data.toList.length := by omega
    have hbyte : bytes.get! place = bytes.data.toList[place] := getElem!_pos bytes.data place hplace
    rw [ByteArray.toList.loop, if_pos (by omega), ih (place + 1) _ (by omega), hbyte,
      List.drop_eq_getElem_cons hplace, List.reverse_cons, List.append_assoc]
    rfl

/-- The bytes of a text are those of its characters, one after the other. -/
theorem bytes_eq (s : String) : bytes s = s.toList.flatMap String.utf8EncodeChar := by
  have hencode : s.toByteArray = s.toList.utf8Encode := by
    rw [← String.toByteArray_ofList, String.ofList_toList]
  rw [bytes, String.toUTF8_eq_toByteArray, hencode, ByteArray.toList, toList_loop, List.utf8Encode,
    List.toList_data_toByteArray]
  rfl

/-! ## The order of characters -/

theorem cons_lt_cons_ofNat {a b : Nat} (ha : a < 256) (hb : b < 256) {u v : List UInt8} :
    UInt8.ofNat a :: u < UInt8.ofNat b :: v ↔ a < b ∨ a = b ∧ u < v := by
  rw [List.cons_lt_cons_iff, UInt8.lt_iff_toNat_lt, ← UInt8.toNat_inj, UInt8.toNat_ofNat',
    UInt8.toNat_ofNat', Nat.mod_eq_of_lt ha, Nat.mod_eq_of_lt hb]

/-- The smaller of two numbers has the smaller digit where they differ first. -/
theorem digits_lt {m n : Nat} (h : m < n) :
    m / 262144 < n / 262144 ∨ m / 262144 = n / 262144 ∧
      (m / 4096 % 64 < n / 4096 % 64 ∨ m / 4096 % 64 = n / 4096 % 64 ∧
        (m / 64 % 64 < n / 64 % 64 ∨ m / 64 % 64 = n / 64 % 64 ∧ m % 64 < n % 64)) := by
  have hdigit : ∀ {a b : Nat}, a < b → a / 64 < b / 64 ∨ a / 64 = b / 64 ∧ a % 64 < b % 64 := by
    omega
  have hdiv : ∀ a : Nat, a / 4096 = a / 64 / 64 ∧ a / 262144 = a / 64 / 64 / 64 := by omega
  rw [(hdiv m).1, (hdiv n).1, (hdiv m).2, (hdiv n).2]
  rcases hdigit h with h₁ | ⟨h₁, hlast⟩
  · rcases hdigit h₁ with h₂ | ⟨h₂, hthird⟩
    · rcases hdigit h₂ with h₃ | ⟨h₃, hsecond⟩
      · exact .inl h₃
      · exact .inr ⟨h₃, .inl hsecond⟩
    · rw [h₂]
      exact .inr ⟨rfl, .inr ⟨rfl, .inl hthird⟩⟩
  · rw [h₁]
    exact .inr ⟨rfl, .inr ⟨rfl, .inr ⟨rfl, hlast⟩⟩⟩

/-- The bytes of the smaller character come first, whatever follows. -/
theorem utf8EncodeChar_lt {c d : Char} (h : c < d) (u v : List UInt8) :
    String.utf8EncodeChar c ++ u < String.utf8EncodeChar d ++ v := by
  have hlt : c.val.toNat < d.val.toNat := h
  have hmax : d.val.toNat < 0x110000 := by
    rcases d.valid with hlow | hhigh
    · exact Nat.lt_trans hlow (by decide)
    · exact hhigh.2
  simp only [String.utf8EncodeChar]
  generalize c.val.toNat = m at hlt
  generalize d.val.toNat = n at hlt hmax
  have hdigits := digits_lt hlt
  have hm : m / 262144 % 8 = m / 262144 := Nat.mod_eq_of_lt (by omega)
  have hn : n / 262144 % 8 = n / 262144 := Nat.mod_eq_of_lt (by omega)
  -- one case for each pair of lengths
  split_ifs
  all_goals simp (disch := omega) only [List.cons_append, cons_lt_cons_ofNat, hm, hn]
  all_goals omega

/-! ## The order of texts -/

theorem flatMap_utf8EncodeChar_lt {cs ds : List Char} (h : cs < ds) :
    cs.flatMap String.utf8EncodeChar < ds.flatMap String.utf8EncodeChar := by
  induction h with
  | @nil d ds =>
    obtain ⟨b, bs, hd⟩ := List.exists_cons_of_ne_nil (String.utf8EncodeChar_ne_nil (c := d))
    rw [List.flatMap_nil, List.flatMap_cons, hd]
    exact .nil
  | rel hcd => exact utf8EncodeChar_lt hcd _ _
  | cons _ ih => exact List.append_left_lt ih

/-- **Texts are ordered as their bytes are.** -/
theorem lt_iff_bytes_lt (s t : String) : s < t ↔ bytes s < bytes t := by
  have hmono : ∀ {s t : String}, s < t → bytes s < bytes t := by
    intro s t h
    rw [bytes_eq, bytes_eq]
    exact flatMap_utf8EncodeChar_lt h
  constructor
  · exact hmono
  · intro h
    rcases lt_trichotomy s t with hst | rfl | hts
    · exact hst
    · exact absurd h (List.lt_irrefl _)
    · exact absurd h (List.lt_asymm (hmono hts))

theorem le_iff_bytes_le (s t : String) : s ≤ t ↔ bytes s ≤ bytes t := by
  rw [← not_lt, lt_iff_bytes_lt, List.not_lt]

/-! ## Sorted texts -/

theorem le_iff (s t : String) : le s t = true ↔ s ≤ t := by
  rw [le, Bool.not_eq_true', decide_eq_false_iff_not, not_lt]

theorem pairwise_mergeSort_le (texts : List String) : (texts.mergeSort le).Pairwise (· ≤ ·) := by
  refine (List.pairwise_mergeSort ?_ ?_ texts).imp fun h => (le_iff _ _).1 h
  · intro a b c hab hbc
    exact (le_iff a c).2 (((le_iff a b).1 hab).trans ((le_iff b c).1 hbc))
  · intro a b
    rw [Bool.or_eq_true, le_iff, le_iff]
    exact le_total a b

/-- Distinct texts that are sorted ascend strictly. -/
theorem pairwise_lt_of_nodup {texts : List String} (hsorted : texts.Pairwise (· ≤ ·))
    (hdistinct : texts.Nodup) : texts.Pairwise (· < ·) :=
  (hsorted.and hdistinct).imp fun h => lt_of_le_of_ne h.1 h.2

theorem pairwise_sortedDistinct (texts : List String) : (sortedDistinct texts).Pairwise (· < ·) :=
  pairwise_lt_of_nodup ((pairwise_mergeSort_le texts).sublist (eraseDups_sublist _))
    (nodup_eraseDups _)

theorem mem_sortedDistinct {texts : List String} {s : String} :
    s ∈ sortedDistinct texts ↔ s ∈ texts := by
  rw [sortedDistinct, List.mem_eraseDups, List.mem_mergeSort]

/-! ## Items sorted by their texts -/

section
variable {α : Type} {text : α → String} {items others : List α}

theorem sortByText_eq_mergeSort (text : α → String) (items : List α) :
    sortByText text items = items.mergeSort fun a b => le (text a) (text b) := by
  have hpairs : (items.mergeSort fun a b => le (text a) (text b)).map (fun a => (text a, a)) =
      (items.map fun a => (text a, a)).mergeSort fun a b => le a.1 b.1 :=
    List.map_mergeSort fun _ _ _ _ => rfl
  rw [sortByText, ← hpairs, List.map_map]
  exact List.map_id _

/-- Sorting by text reorders the items. -/
theorem sortByText_perm (text : α → String) (items : List α) :
    (sortByText text items).Perm items := by
  rw [sortByText_eq_mergeSort]
  exact List.mergeSort_perm items _

theorem mem_sortByText {a : α} : a ∈ sortByText text items ↔ a ∈ items :=
  (sortByText_perm text items).mem_iff

/-- The texts of sorted items are the sorted texts. -/
theorem map_sortByText (text : α → String) (items : List α) :
    (sortByText text items).map text = (items.map text).mergeSort le := by
  rw [sortByText_eq_mergeSort]
  exact List.map_mergeSort fun _ _ _ _ => rfl

theorem pairwise_sortByText (text : α → String) (items : List α) :
    (sortByText text items).Pairwise fun a b => text a ≤ text b := by
  rw [← List.pairwise_map, map_sortByText]
  exact pairwise_mergeSort_le _

/-- Items that are sorted stay where they are. -/
theorem sortByText_eq_self (h : items.Pairwise fun a b => text a ≤ text b) :
    sortByText text items = items := by
  rw [sortByText_eq_mergeSort]
  exact List.mergeSort_of_pairwise (h.imp fun hab => (le_iff _ _).2 hab)

/-- **The same items, arranged by a key in two ways, show the same keys**, also where items share
one. -/
theorem map_key_eq_of_perm {κ : Type} [PartialOrder κ] {key : α → κ} (h : items.Perm others)
    (hitems : items.Pairwise fun a b => key a ≤ key b)
    (hothers : others.Pairwise fun a b => key a ≤ key b) : items.map key = others.map key := by
  refine (h.map key).eq_of_pairwise ?_ (List.pairwise_map.2 hitems) (List.pairwise_map.2 hothers)
  intro k l _ _ hkl hlk
  exact le_antisymm hkl hlk

end

end LeakCheck.Text
