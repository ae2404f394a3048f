import Mathlib
import RoomConsole.Pull.Status

/-!
# The totals of a pull

`Status.totals` adds up the counters of the layers that report their
progress, one layer after another, each addition held at `counterMax`
rather than wrapping. Two held additions are one (`addCounter_addCounter`):
once a sum is held at the bound, adding more keeps it there. So the whole
fold is the exact sum of the reported counters, held once
(`Status.totals_eq`).

Two things follow from that closed form. The totals do not depend on the
order of the layers (`Status.totals_perm`), and the running total only
grows: the first layers never total more than all of them
(`Status.totals_take_le`), so the fold never wraps around. The main
statement is `totals_saturate_sums`.
-/

namespace RoomConsole.Pull

theorem addCounter_le (a b : Nat) : addCounter a b ≤ counterMax := Nat.min_le_left _ _

/-- Two held additions are one held addition of both. -/
theorem addCounter_addCounter (a b c : Nat) :
    addCounter (addCounter a b) c = addCounter a (b + c) := by
  unfold addCounter
  omega

/-- Adding counters one by one onto a held total is adding their sums, held once. -/
theorem foldl_add (ps : List Progress) {acc : Progress} (hc : acc.current ≤ counterMax)
    (ht : acc.total ≤ counterMax) :
    ps.foldl Progress.add acc =
      { current := addCounter acc.current (ps.map (·.current)).sum
        total := addCounter acc.total (ps.map (·.total)).sum } := by
  induction ps generalizing acc with
  | nil =>
    cases acc
    simp only [List.foldl_nil, List.map_nil, List.sum_nil, addCounter, Nat.add_zero] at hc ht ⊢
    rw [Nat.min_eq_right hc, Nat.min_eq_right ht]
  | cons p ps ih =>
    rw [List.foldl_cons, ih (addCounter_le _ _) (addCounter_le _ _)]
    simp only [Progress.add, List.map_cons, List.sum_cons, addCounter_addCounter]

namespace Status

variable (s : Status)

/-- **The totals are the exact sums of the reported counters, held at the
bound.** -/
theorem totals_eq :
    s.totals =
      { current := min counterMax ((s.layers.filterMap (·.detail)).map (·.current)).sum
        total := min counterMax ((s.layers.filterMap (·.detail)).map (·.total)).sum } := by
  rw [totals, foldl_add _ (Nat.zero_le _) (Nat.zero_le _)]
  simp only [addCounter, Nat.zero_add]

/-- The order of the layers does not matter. -/
theorem totals_perm {l : List Layer} (h : l.Perm s.layers) :
    ({ s with layers := l } : Status).totals = s.totals := by
  have hd := h.filterMap (·.detail)
  rw [totals_eq, totals_eq, (hd.map _).sum_nat, (hd.map _).sum_nat]

/-- Summing the counters of the first layers only never gives more: the
running total grows with every layer. -/
theorem totals_take_le (n : Nat) :
    ({ s with layers := s.layers.take n } : Status).totals.current ≤ s.totals.current ∧
      ({ s with layers := s.layers.take n } : Status).totals.total ≤ s.totals.total := by
  obtain ⟨rest, hrest⟩ := (List.take_prefix n s.layers).filterMap (·.detail)
  have hc := congrArg (fun ps => (ps.map (·.current)).sum) hrest
  have ht := congrArg (fun ps => (ps.map (·.total)).sum) hrest
  simp only [List.map_append, List.sum_append] at hc ht
  rw [totals_eq, totals_eq]
  constructor <;> dsimp only <;> omega

end Status

/-- **The totals of a pull are the held sums of the reported counters.** For
every list of layers, the totals are the sum of the current and of the
total counters of exactly the layers that report their progress, each held
at `2^64 - 1`. They are the same for every order of the layers, and the
running total never wraps around: the first layers never total more than
all of them. -/
theorem totals_saturate_sums (s : Status) :
    s.totals =
        { current := min (2 ^ 64 - 1) ((s.layers.filterMap (·.detail)).map (·.current)).sum
          total := min (2 ^ 64 - 1) ((s.layers.filterMap (·.detail)).map (·.total)).sum } ∧
      (∀ l : List Layer, l.Perm s.layers → ({ s with layers := l } : Status).totals = s.totals) ∧
      ∀ n, ({ s with layers := s.layers.take n } : Status).totals.current ≤ s.totals.current ∧
        ({ s with layers := s.layers.take n } : Status).totals.total ≤ s.totals.total :=
  ⟨s.totals_eq, fun _ h => s.totals_perm h, s.totals_take_le⟩

end RoomConsole.Pull
