import LeakCheck.Leak.Basic
import LeakCheck.Proofs.List.Distinct

/-!
# The leaks of a collector

A collector lists what it received, each leak once (`Collector.nodup_leaks`,
`Collector.mem_leaks`).
-/

namespace LeakCheck

namespace Collector

/-- Sorting reorders the distinct leaks. -/
theorem leaks_perm (c : Collector) : c.leaks.Perm c.received.eraseDups :=
  List.mergeSort_perm _ _

/-- No leak is listed twice. -/
theorem nodup_leaks (c : Collector) : c.leaks.Nodup :=
  c.leaks_perm.nodup_iff.2 (nodup_eraseDups _)

/-- The leaks that are listed are those that were received. -/
theorem mem_leaks {c : Collector} {leak : Leak} : leak ∈ c.leaks ↔ leak ∈ c.received :=
  c.leaks_perm.mem_iff.trans List.mem_eraseDups

end Collector

end LeakCheck
