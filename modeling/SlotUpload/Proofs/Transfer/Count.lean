import Mathlib.Algebra.Group.Int.Defs
import Mathlib.Algebra.Group.Nat.Defs
import SlotUpload.Proofs.Transfer.Change

/-!
# SlotUpload.Proofs.Transfer.Count

The counts of bytes that listeners are told of.  A handle shows a count as a
signed number (`saturated`), while an event tells it as it was given; a new count
is compared with the one that the handle shows.  So what the handle shows never
goes back (`Evolves.bytes_le`), and of two counts that were told one after the
other the second is at least the first *as the handle shows them*.

Counts from 2 ^ 63 - 1 on all look the same in a handle.  Exactly there two counts
can be told in the wrong order: `sublist_progress_events_iff` says which pairs of
counts listeners can be told of, and `not_forall_progress_le` gives a transfer
whose second count is smaller than its first.
-/

namespace SlotUpload

namespace TransferEvent

/-- The count of bytes that an event tells of. -/
def counted? : TransferEvent → Option UInt64
  | status .. => none
  | progress bytes => some bytes

/-- The counts of bytes that events tell of, in order. -/
def counts (es : List TransferEvent) : List UInt64 := es.filterMap counted?

@[simp] theorem counts_append_status (es : List TransferEvent) (old new : TransferStatus)
    (reason : Option String) : counts (es ++ [.status old new reason]) = counts es := by
  simp [counts, counted?]

@[simp] theorem counts_append_progress (es : List TransferEvent) (bytes : UInt64) :
    counts (es ++ [.progress bytes]) = counts es ++ [bytes] := by
  simp [counts, counted?]

end TransferEvent

open TransferEvent
open scoped List

namespace Transfer

variable {α : Type} {t t' : Transfer}

/-! ## what a handle shows of a count -/

/-- A handle shows a count as it is, up to the largest number that it can show. -/
theorem toInt_saturated (bytes : UInt64) :
    (saturated bytes).toInt = min (bytes.toNat : Int) (2 ^ 63 - 1) := by
  unfold saturated
  split
  · next h =>
      have hlt : bytes.toNat < 2 ^ 63 := UInt64.lt_iff_toNat_lt.mp h
      have hbv : bytes.toInt64.toInt = bytes.toNat :=
        BitVec.toInt_eq_toNat_of_lt (x := bytes.toBitVec) (by rw [UInt64.toNat_toBitVec]; omega)
      rw [hbv]
      omega
  · next h =>
      have hle : 2 ^ 63 ≤ bytes.toNat := by
        rw [UInt64.lt_iff_toNat_lt] at h
        exact Nat.le_of_not_lt h
      rw [Int64.toInt_maxValue]
      omega

theorem zero_le_saturated (bytes : UInt64) : 0 ≤ saturated bytes := by
  rw [Int64.le_iff_toInt_le, toInt_saturated, Int64.toInt_zero]
  omega

/-- A handle takes one count for at least another if it is, or if it is too large
to be shown. -/
theorem saturated_le_saturated_iff (a b : UInt64) :
    saturated a ≤ saturated b ↔ a ≤ b ∨ 2 ^ 63 - 1 ≤ b.toNat := by
  rw [Int64.le_iff_toInt_le, toInt_saturated, toInt_saturated, UInt64.le_iff_toNat_le]
  omega

/-! ## counts along a run -/

/-- The shown count never goes down. -/
theorem Change.bytes_le (h : t.Change t') : t.bytes ≤ t'.bytes := by
  cases h with
  | move new reason h =>
      unfold moveTo
      dsimp only
      split
      · next hb => exact Int64.le_of_lt hb.2
      · exact Int64.le_refl t.bytes
  | count bytes hs hb => exact hb
  | abort h => exact Int64.le_refl t.bytes

/-- The count that a handle shows never goes back. -/
theorem Evolves.bytes_le (h : t.Evolves t') : t.bytes ≤ t'.bytes := by
  induction h with
  | refl => exact Int64.le_refl t.bytes
  | tail _ hc ih => exact Int64.le_trans ih hc.bytes_le

/-- The counts told so far were told in the order in which a handle shows them,
and the handle shows at least each of them. -/
structure Counted (t : Transfer) : Prop where
  pairwise : (counts t.events).Pairwise fun a b => saturated a ≤ saturated b
  le_bytes : ∀ a ∈ counts t.events, saturated a ≤ t.bytes

/-- A change keeps the count told. -/
theorem Change.counted (h : t.Change t') (ht : t.Counted) : t'.Counted := by
  have hle := h.bytes_le
  cases h with
  | move new reason h =>
      constructor
      · simpa [moveTo] using ht.pairwise
      · intro a ha
        rw [moveTo, counts_append_status] at ha
        exact Int64.le_trans (ht.le_bytes a ha) hle
  | count bytes hs hb =>
      have hbefore : ∀ a ∈ counts t.events, saturated a ≤ saturated bytes :=
        fun a ha => Int64.le_trans (ht.le_bytes a ha) hb
      constructor
      · rw [Transfer.count, counts_append_progress, List.pairwise_append]
        refine ⟨ht.pairwise, List.pairwise_singleton _ _, ?_⟩
        simpa using hbefore
      · intro a ha
        rw [Transfer.count, counts_append_progress, List.mem_append, List.mem_singleton] at ha
        rcases ha with ha | rfl
        · exact hbefore a ha
        · exact Int64.le_refl _
  | abort h => exact ⟨ht.pairwise, ht.le_bytes⟩

theorem Evolves.counted (h : t.Evolves t') (ht : t.Counted) : t'.Counted := by
  induction h with
  | refl => exact ht
  | tail _ hc ih => exact hc.counted ih

variable (id : String) (direction : Direction) (peer : Option Destination) (file : String)

/-- A new transfer has counted nothing. -/
theorem counted_new : (new id direction peer file).Counted :=
  ⟨.nil, fun _ ha => (List.not_mem_nil ha).elim⟩

/-- Any two counts that a handle takes to be in order can be told one after the
other: the transfer gets in progress, and both are reported. -/
theorem events_of_saturated_le {a b : UInt64} (h : saturated a ≤ saturated b) :
    ((new id direction peer file).operateAll (α := α)
      [.act (.status .inProgress none), .act (.progress a), .act (.progress b)]).events =
      [.status .created .inProgress none, .progress a, .progress b] := by
  have hstart : (new id direction peer file).operate (α := α) (.act (.status .inProgress none)) =
      (new id direction peer file).moveTo .inProgress none := rfl
  have ha : ((new id direction peer file).moveTo .inProgress none).setProgress a =
      ((new id direction peer file).moveTo .inProgress none).count a :=
    if_pos ⟨rfl, zero_le_saturated a⟩
  have hb : (((new id direction peer file).moveTo .inProgress none).count a).setProgress b =
      (((new id direction peer file).moveTo .inProgress none).count a).count b :=
    if_pos ⟨rfl, h⟩
  simp only [operateAll, List.foldl_cons, List.foldl_nil, hstart]
  simp only [operate, act, ha, hb]
  rfl

/-- **Order of counts**: listeners can be told of one count of bytes before another
exactly if the other is at least as large, or is 2 ^ 63 - 1 or more. -/
theorem sublist_progress_events_iff (a b : UInt64) :
    (∃ operations : List (Operation α),
      [.progress a, .progress b] <+ ((new id direction peer file).operateAll operations).events) ↔
    a ≤ b ∨ 2 ^ 63 - 1 ≤ b.toNat := by
  rw [← saturated_le_saturated_iff]
  constructor
  · rintro ⟨operations, h⟩
    have hcounted := (evolves_operateAll _ operations).counted (counted_new id direction peer file)
    have hcounts : [a, b] <+ counts ((new id direction peer file).operateAll operations).events :=
      h.filterMap counted?
    simpa using hcounted.pairwise.sublist hcounts
  · intro h
    refine ⟨[.act (.status .inProgress none), .act (.progress a), .act (.progress b)], ?_⟩
    rw [events_of_saturated_le id direction peer file h]
    exact List.sublist_cons_self _ _

/-- A count can be told after a larger one: a handle shows neither 2 ^ 64 - 1 nor
2 ^ 63, but the same number for both. -/
theorem not_forall_progress_le :
    ¬ ∀ (operations : List (Operation Unit)) (a b : UInt64),
      [.progress a, .progress b] <+ ((new "" .outgoing none "").operateAll operations).events →
      a ≤ b := by
  intro h
  have hle := h [.act (.status .inProgress none), .act (.progress 0xffffffffffffffff),
    .act (.progress 0x8000000000000000)] 0xffffffffffffffff 0x8000000000000000 (by decide)
  revert hle
  decide

end Transfer

end SlotUpload
