import LeakCheck.Node
import LeakCheck.Text.Order

/-!
# Leaks

A leak is a secret that leaves its procedure: the procedure, the statement the secret comes from
and the statement where it escapes. A `Collector` gathers leaks and lists them in a canonical
order; a `Dedup` lets each leak pass once.
-/

namespace LeakCheck

/-- A secret that escapes. -/
structure Leak where
  /-- The procedure it escapes from. -/
  proc : Procedure
  /-- The statement that made the escaping variable a secret. -/
  origin : Vertex
  /-- The statement that lets it escape. -/
  site : Vertex
  deriving DecidableEq, Repr, Inhabited

namespace Leak

/-- How a leak is shown. -/
def text (l : Leak) : String :=
  l.proc.text ++ ": secret from " ++ l.origin.text ++ " escapes at " ++ l.site.text

/-- The order in which leaks are listed: by the position of the site, then by text. -/
def le (a b : Leak) : Bool :=
  if a.site.pos = b.site.pos then Text.le a.text b.text else a.site.pos < b.site.pos

/-- Leaks in the order in which they are listed; those equal in position and text keep theirs. -/
def sort (leaks : List Leak) : List Leak := leaks.mergeSort le

/-- The procedure texts of leaks with the leaks of each, in ascending order of the texts. -/
def byProcedure (leaks : List Leak) : List (String × List Leak) :=
  (Text.sortedDistinct (leaks.map (·.proc.text))).map fun name =>
    (name, leaks.filter (·.proc.text == name))

end Leak

/-- What was reported so far. -/
structure Collector where
  /-- The leaks in the order they came in. -/
  received : List Leak := []
  deriving Repr, Inhabited

namespace Collector

/-- Takes a leak in. -/
def report (c : Collector) (l : Leak) : Collector := ⟨c.received ++ [l]⟩

/-- The distinct leaks in the order in which they are listed. -/
def leaks (c : Collector) : List Leak := Leak.sort c.received.eraseDups

end Collector

/-- The leaks that were let pass so far. -/
structure Dedup where
  /-- The leaks seen. -/
  seen : List Leak := []
  deriving Repr, Inhabited

namespace Dedup

/-- Marks a leak as seen and says whether it has to be forwarded, which is so the first time. -/
def mark (d : Dedup) (l : Leak) : Bool × Dedup :=
  if l ∈ d.seen then (false, d) else (true, ⟨l :: d.seen⟩)

/-- Forwards a leak unless it was seen before. It counts as seen even if forwarding fails. -/
def report {σ ε : Type} (forward : Leak → σ → Option ε × σ) (l : Leak) (d : Dedup) (s : σ) :
    Option ε × Dedup × σ :=
  match d.mark l with
  | (false, d) => (none, d, s)
  | (true, d) =>
    let (e, s) := forward l s
    (e, d, s)

end Dedup

end LeakCheck
