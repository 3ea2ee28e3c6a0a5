import Mathlib.Algebra.BigOperators.Group.List.Basic
import Mathlib.Algebra.GroupWithZero.Nat
import Mathlib.Algebra.Order.BigOperators.Group.List
import Mathlib.Data.List.DropRight
import Mathlib.Data.List.Sort
import Mathlib.Data.Prod.Lex
import Mathlib.Data.String.Basic
import RecordSql.Proofs.Models
import RecordSql.Stats
/-! # The statistics account for every statement

Overall durations stop at `2 ^ 64 - 1` nanoseconds, those of the breakdown at the greatest
duration. Both are read off the statements recorded since the last reset, whatever their order,
and so the overall numbers can be computed from the breakdown. -/
set_option autoImplicit false
namespace RecordSql

structure Sample where
  key : StatsKey
  elapsed : Duration
  failed : Bool
  deriving DecidableEq

namespace Sample

def under (key : StatsKey) (samples : List Sample) : List Sample :=
  samples.filter fun x => x.key = key

def failures (samples : List Sample) : Nat := samples.countP failed

def sumNanos (samples : List Sample) : Nat := (samples.map fun x => x.elapsed.nanos).sum

def maxNanos (samples : List Sample) : Nat :=
  (samples.map fun x => x.elapsed.nanos).foldr max 0

theorem foldr_max_le_iff {l : List Nat} {n : Nat} : l.foldr max 0 ≤ n ↔ ∀ m ∈ l, m ≤ n := by
  induction l with
  | nil => simp
  | cons m rest ih => simp [ih]

theorem maxNanos_le_iff {samples : List Sample} {n : Nat} :
    maxNanos samples ≤ n ↔ ∀ x ∈ samples, x.elapsed.nanos ≤ n := by
  rw [maxNanos, foldr_max_le_iff]
  simp

theorem maxNanos_append (samples : List Sample) (x : Sample) :
    maxNanos (samples ++ [x]) = max (maxNanos samples) x.elapsed.nanos := by
  apply eq_of_forall_ge_iff
  intro n
  rw [max_le_iff, maxNanos_le_iff, maxNanos_le_iff]
  simp [or_imp, forall_and]

theorem sumNanos_append (samples : List Sample) (x : Sample) :
    sumNanos (samples ++ [x]) = sumNanos samples + x.elapsed.nanos := by
  simp [sumNanos]

theorem failures_append (samples : List Sample) (x : Sample) :
    failures (samples ++ [x]) = failures samples + if x.failed then 1 else 0 := by
  simp [failures, List.countP_append, List.countP_cons]

theorem under_append (key : StatsKey) (samples : List Sample) (x : Sample) :
    under key (samples ++ [x]) =
      if x.key = key then under key samples ++ [x] else under key samples := by
  by_cases own : x.key = key
  · simp [under, own]
  · simp [under, own]

theorem failures_lt {samples : List Sample} (few : samples.length < UInt64.size) :
    failures samples < UInt64.size := lt_of_le_of_lt List.countP_le_length few

theorem failures_eq (samples : List Sample) :
    failures samples = (samples.map fun x => x.failed.toNat).sum := by
  induction samples with
  | nil => rfl
  | cons x rest ih =>
    rw [List.map_cons, List.sum_cons, ← ih, failures, failures, List.countP_cons]
    cases x.failed <;> simp [Nat.add_comm]

theorem sum_map_single {κ : Type} [DecidableEq κ] {keys : List κ} (distinct : keys.Nodup) {k : κ}
    (member : k ∈ keys) (n : Nat) : (keys.map fun key => if key = k then n else 0).sum = n := by
  rw [List.sum_map_eq_nsmul_single k _ fun other differs _ => if_neg differs, if_pos rfl,
    List.count_eq_one_of_mem distinct member, one_nsmul]

/-- Numbers that are added up key by key. -/
theorem sum_under {samples : List Sample} {keys : List StatsKey} (distinct : keys.Nodup)
    (covered : ∀ x ∈ samples, x.key ∈ keys) (v : Sample → Nat) :
    (keys.map fun key => ((under key samples).map v).sum).sum = (samples.map v).sum := by
  induction samples with
  | nil => simp [under]
  | cons x rest ih =>
    have first (key : StatsKey) : ((under key (x :: rest)).map v).sum =
        (if key = x.key then v x else 0) + ((under key rest).map v).sum := by
      by_cases own : key = x.key
      · simp [under, own]
      · simp [under, own, Ne.symm own]
    have once := sum_map_single distinct (covered x List.mem_cons_self) (v x)
    simp only [first]
    rw [List.sum_map_add, once, ih fun y member => covered y (List.mem_cons_of_mem x member),
      List.map_cons, List.sum_cons]

theorem totals_perm {samples others : List Sample} (same : samples.Perm others) :
    failures samples = failures others ∧ sumNanos samples = sumNanos others ∧
      maxNanos samples = maxNanos others := by
  have durations := same.map fun x => x.elapsed.nanos
  exact ⟨same.countP_eq _, durations.sum_eq, durations.foldr_eq 0⟩

theorem under_eq_nil_iff {key : StatsKey} {samples : List Sample} :
    under key samples = [] ↔ ∀ x ∈ samples, x.key ≠ key := by
  simp [under]

end Sample

inductive StatsCall
  | record (x : Sample)
  | reset
  deriving DecidableEq

namespace StatsCall

def sample? : StatsCall → Option Sample
  | record x => some x
  | reset => none

def sinceReset (calls : List StatsCall) : List Sample :=
  (calls.rtakeWhile fun c => c.sample?.isSome).filterMap sample?

theorem sinceReset_record (calls : List StatsCall) (x : Sample) :
    sinceReset (calls ++ [record x]) = sinceReset calls ++ [x] := by
  rw [sinceReset, List.rtakeWhile_concat_pos _ _ _ rfl, List.filterMap_append]
  rfl

theorem sinceReset_reset (calls : List StatsCall) : sinceReset (calls ++ [reset]) = [] := by
  rw [sinceReset, List.rtakeWhile_concat_neg _ _ _ (by simp [sample?])]
  rfl

end StatsCall

def TableStats.ofSamples (own : List Sample) : TableStats where
  count := .ofNat own.length
  failed := .ofNat (Sample.failures own)
  total := ⟨min Duration.greatest.nanos (Sample.sumNanos own)⟩
  longest := ⟨Sample.maxNanos own⟩

/-- An entry of the breakdown is made of these statements and no others. -/
structure TableStats.IsMadeOf (t : TableStats) (own : List Sample) : Prop where
  count : t.count.toNat = own.length
  failed : t.failed.toNat = Sample.failures own
  total : t.total.nanos = min Duration.greatest.nanos (Sample.sumNanos own)
  longest : t.longest.nanos = Sample.maxNanos own

theorem TableStats.isMadeOf_ofSamples {own : List Sample} (few : own.length < UInt64.size) :
    (ofSamples own).IsMadeOf own where
  count := UInt64.toNat_ofNat_of_lt' few
  failed := UInt64.toNat_ofNat_of_lt' (Sample.failures_lt few)
  total := rfl
  longest := rfl

theorem TableStats.ofSamples_append (own : List Sample) (x : Sample) :
    ofSamples (own ++ [x]) = (ofSamples own).add x.elapsed x.failed := by
  have total : min Duration.greatest.nanos (Sample.sumNanos own + x.elapsed.nanos) =
      min Duration.greatest.nanos
        (min Duration.greatest.nanos (Sample.sumNanos own) + x.elapsed.nanos) := by omega
  have failed : UInt64.ofNat (Sample.failures own + if x.failed then 1 else 0) =
      if x.failed then .ofNat (Sample.failures own) + 1 else .ofNat (Sample.failures own) := by
    cases x.failed with
    | false => rfl
    | true => exact UInt64.ofNat_add _ 1
  have count : UInt64.ofNat (own.length + 1) = .ofNat own.length + 1 := UInt64.ofNat_add _ 1
  rw [ofSamples, Sample.failures_append, Sample.sumNanos_append, Sample.maxNanos_append,
    List.length_append, List.length_singleton, total, failed, count]
  rfl

theorem TableStats.ofSamples_perm {own other : List Sample} (same : own.Perm other) :
    ofSamples own = ofSamples other := by
  obtain ⟨failed, sum, longest⟩ := Sample.totals_perm same
  rw [ofSamples, ofSamples, same.length_eq, failed, sum, longest]

namespace Stats

open Sample StatsCall

/-! ## One recorded statement -/

theorem toNat_nanosOf (d : Duration) : (nanosOf d).toNat = min (2 ^ 64 - 1) d.nanos := by
  rw [nanosOf]
  split
  next fits =>
    rw [UInt64.toNat_ofNat_of_lt' fits]
    simp only [UInt64.size] at fits
    omega
  next large =>
    have limit : nanosLimit.toNat = 2 ^ 64 - 1 := rfl
    rw [limit]
    simp only [UInt64.size] at large
    omega

/-- The sum does not wrap when it fits, and otherwise what it wraps to is not kept. -/
theorem toNat_addNanos (total nanos : UInt64) :
    (addNanos total nanos).toNat = min (2 ^ 64 - 1) (total.toNat + nanos.toNat) := by
  simp only [addNanos]
  split
  next fits =>
    simp only [UInt64.size] at fits
    rw [UInt64.toNat_add]
    omega
  next large =>
    have limit : nanosLimit.toNat = 2 ^ 64 - 1 := rfl
    rw [limit]
    simp only [UInt64.size] at large
    omega

theorem find?_addTo (key : StatsKey) (elapsed : Duration) (failed : Bool)
    (l : List (StatsKey × TableStats)) (k : StatsKey) :
    ((addTo key elapsed failed l).find? fun e => e.1 == k).map Prod.snd =
      if key = k then
        some ((((l.find? fun e => e.1 == k).map Prod.snd).getD .empty).add elapsed failed)
      else (l.find? fun e => e.1 == k).map Prod.snd := by
  induction l with
  | nil =>
    by_cases own : key = k
    · simp [addTo, own]
    · simp [addTo, own]
  | cons entry rest ih =>
    obtain ⟨other, s⟩ := entry
    rw [addTo]
    by_cases here : other = key
    · subst here
      by_cases own : other = k
      · simp [own]
      · simp [own]
    · by_cases there : other = k
      · have foreign : key ≠ k := fun own => here (there.trans own.symm)
        rw [if_neg here, if_neg foreign]
        simp [there]
      · simpa [here, there] using ih

theorem map_fst_addTo (key : StatsKey) (elapsed : Duration) (failed : Bool)
    (l : List (StatsKey × TableStats)) :
    (addTo key elapsed failed l).map Prod.fst =
      if key ∈ l.map Prod.fst then l.map Prod.fst else l.map Prod.fst ++ [key] := by
  induction l with
  | nil => rfl
  | cons entry rest ih =>
    obtain ⟨other, s⟩ := entry
    rw [addTo]
    by_cases here : other = key
    · simp [here]
    · rw [if_neg here, List.map_cons, List.map_cons, ih]
      by_cases later : key ∈ rest.map Prod.fst
      · rw [if_pos later, if_pos (List.mem_cons_of_mem _ later)]
      · have absent : key ∉ other :: rest.map Prod.fst := by
          simp only [List.mem_cons, not_or]
          exact ⟨Ne.symm here, later⟩
        rw [if_neg later, if_neg absent, List.cons_append]

/-- The statistics say what the statements come to, counts up to a multiple of `2 ^ 64`. -/
structure Accounts (s : Stats) (samples : List Sample) : Prop where
  count : s.count = .ofNat samples.length
  failed : s.failed = .ofNat (failures samples)
  total : s.total.nanos = min (2 ^ 64 - 1) (sumNanos samples)
  longest : s.longest.nanos = min (2 ^ 64 - 1) (maxNanos samples)
  distinct : (s.byTable.map Prod.fst).Nodup
  entries : ∀ key, s.find? key =
    if under key samples = [] then none else some (.ofSamples (under key samples))

variable {s t : Stats} {samples others : List Sample}

theorem accounts_empty : empty.Accounts [] where
  count := rfl
  failed := rfl
  total := rfl
  longest := rfl
  distinct := List.nodup_nil
  entries _ := rfl

theorem Accounts.record (holds : s.Accounts samples) (x : Sample) :
    (s.record x.key x.elapsed x.failed).Accounts (samples ++ [x]) where
  count := by
    rw [List.length_append, List.length_singleton, UInt64.ofNat_add, ← holds.count]
    rfl
  failed := by
    rw [failures_append]
    simp only [Stats.record, holds.failed]
    cases x.failed with
    | false => rfl
    | true => exact (UInt64.ofNat_add _ 1).symm
  total := by
    have before : s.totalNanos.toNat = min (2 ^ 64 - 1) (sumNanos samples) := holds.total
    simp only [Stats.total, Stats.record]
    rw [toNat_addNanos, toNat_nanosOf, before, sumNanos_append]
    omega
  longest := by
    have before : s.longestNanos.toNat = min (2 ^ 64 - 1) (maxNanos samples) := holds.longest
    simp only [Stats.longest, Stats.record]
    rw [UInt64.toNat_max, toNat_nanosOf, before, maxNanos_append]
    omega
  distinct := by
    simp only [Stats.record]
    rw [map_fst_addTo]
    split
    · exact holds.distinct
    next fresh => exact List.nodup_append_comm.mp (holds.distinct.cons fresh)
  entries key := by
    have before := holds.entries key
    rw [Stats.find?] at before ⊢
    simp only [Stats.record]
    rw [find?_addTo, under_append, before]
    by_cases own : x.key = key
    · have start : (if under key samples = [] then none
          else some (TableStats.ofSamples (under key samples))).getD .empty =
            TableStats.ofSamples (under key samples) := by
        by_cases first : under key samples = []
        · rw [if_pos first, first]
          rfl
        · rw [if_neg first]
          rfl
      rw [if_pos own, if_pos own, start, ← TableStats.ofSamples_append, if_neg (by simp)]
    · rw [if_neg own, if_neg own]

/-! ## Sequences of calls -/

def after (s : Stats) : StatsCall → Stats
  | .record x => s.record x.key x.elapsed x.failed
  | .reset => empty

def run (calls : List StatsCall) : Stats := calls.foldl after empty

theorem Accounts.after {calls : List StatsCall} (holds : s.Accounts (sinceReset calls))
    (c : StatsCall) : (s.after c).Accounts (sinceReset (calls ++ [c])) := by
  cases c with
  | record x =>
    rw [sinceReset_record]
    exact holds.record x
  | reset =>
    rw [sinceReset_reset]
    exact accounts_empty

theorem accounts_run (calls : List StatsCall) : (run calls).Accounts (sinceReset calls) := by
  induction calls using List.reverseRecOn with
  | nil => exact accounts_empty
  | append_singleton front c ih =>
    rw [run, List.foldl_append]
    exact ih.after c

/-! ## The breakdown -/

theorem mem_byTable_iff (distinct : (s.byTable.map Prod.fst).Nodup)
    {entry : StatsKey × TableStats} :
    entry ∈ s.byTable ↔ s.find? entry.1 = some entry.2 := by
  constructor
  · intro member
    rw [Stats.find?, find?_key distinct member]
    rfl
  · intro found
    obtain ⟨other, first, value⟩ := Option.map_eq_some_iff.mp found
    have same : other.1 = entry.1 := by simpa using List.find?_some first
    have equal : other = entry := Prod.ext same value
    exact equal ▸ List.mem_of_find?_eq_some first

theorem Accounts.of_mem (holds : s.Accounts samples) {entry : StatsKey × TableStats}
    (member : entry ∈ s.byTable) : entry.2 = .ofSamples (under entry.1 samples) := by
  have found := (mem_byTable_iff holds.distinct).mp member
  rw [holds.entries] at found
  by_cases silent : under entry.1 samples = []
  · simp [silent] at found
  · simpa [silent] using found.symm

theorem Accounts.key_mem (holds : s.Accounts samples) {x : Sample} (member : x ∈ samples) :
    x.key ∈ s.byTable.map Prod.fst := by
  have recorded : under x.key samples ≠ [] := fun silent =>
    under_eq_nil_iff.mp silent x member rfl
  have found := holds.entries x.key
  rw [if_neg recorded] at found
  have listed : (x.key, TableStats.ofSamples (under x.key samples)) ∈ s.byTable :=
    (mem_byTable_iff holds.distinct).mpr found
  exact List.mem_map_of_mem listed

/-- What is read off every entry is read off the statements under every key. -/
theorem Accounts.map_byTable (holds : s.Accounts samples) (w : TableStats → Nat) :
    s.byTable.map (fun entry => w entry.2) =
      (s.byTable.map Prod.fst).map fun key => w (.ofSamples (under key samples)) := by
  rw [List.map_map]
  apply List.map_congr_left
  intro entry member
  rw [holds.of_mem member]
  rfl

/-- A sum that is cut may be taken of numbers that were cut no lower. -/
theorem min_sum_min {least most : Nat} (order : least ≤ most) (l : List Nat) :
    min least (l.map (min most)).sum = min least l.sum := by
  induction l with
  | nil => rfl
  | cons n rest ih =>
    rw [List.map_cons, List.sum_cons, List.sum_cons]
    omega

/-- The overall numbers follow from the breakdown. -/
structure Balanced (s : Stats) : Prop where
  count : s.count.toNat = (s.byTable.map fun entry => entry.2.count.toNat).sum
  failed : s.failed.toNat = (s.byTable.map fun entry => entry.2.failed.toNat).sum
  total : s.total.nanos =
    min (2 ^ 64 - 1) (s.byTable.map fun entry => entry.2.total.nanos).sum
  longest : s.longest.nanos =
    min (2 ^ 64 - 1) ((s.byTable.map fun entry => entry.2.longest.nanos).foldr max 0)

theorem length_under_lt (few : samples.length < 2 ^ 64) (key : StatsKey) :
    (under key samples).length < UInt64.size :=
  lt_of_le_of_lt (List.length_filter_le _ _) few

theorem Accounts.balanced (holds : s.Accounts samples) (few : samples.length < 2 ^ 64) :
    s.Balanced where
  count := by
    have own (key : StatsKey) : (TableStats.ofSamples (under key samples)).count.toNat =
        ((under key samples).map fun _ => 1).sum := by
      rw [TableStats.ofSamples, UInt64.toNat_ofNat_of_lt' (length_under_lt few key)]
      simp
    rw [holds.count, UInt64.toNat_ofNat_of_lt' few, holds.map_byTable fun t => t.count.toNat]
    simp only [own]
    rw [sum_under holds.distinct fun x => holds.key_mem]
    simp
  failed := by
    have own (key : StatsKey) : (TableStats.ofSamples (under key samples)).failed.toNat =
        ((under key samples).map fun x => x.failed.toNat).sum := by
      rw [TableStats.ofSamples, UInt64.toNat_ofNat_of_lt' (failures_lt (length_under_lt few key)),
        failures_eq]
    rw [holds.failed, UInt64.toNat_ofNat_of_lt' (failures_lt few),
      holds.map_byTable fun t => t.failed.toNat]
    simp only [own]
    rw [sum_under holds.distinct fun x => holds.key_mem, failures_eq]
  total := by
    have order : 2 ^ 64 - 1 ≤ Duration.greatest.nanos := by decide
    have cut := min_sum_min order
      ((s.byTable.map Prod.fst).map fun key => sumNanos (under key samples))
    have sum := sum_under holds.distinct (fun x => holds.key_mem) fun x => x.elapsed.nanos
    rw [List.map_map] at cut
    rw [holds.total, holds.map_byTable fun t => t.total.nanos, sumNanos, ← sum]
    exact cut.symm
  longest := by
    have parts := holds.map_byTable fun t => t.longest.nanos
    rw [holds.longest, parts]
    congr 1
    apply eq_of_forall_ge_iff
    intro n
    rw [maxNanos_le_iff, foldr_max_le_iff]
    constructor
    · intro bound m listed
      obtain ⟨key, -, rfl⟩ := List.mem_map.mp listed
      exact maxNanos_le_iff.mpr fun x member => bound x (List.mem_of_mem_filter member)
    · intro bound x member
      have largest := bound _ (List.mem_map_of_mem (holds.key_mem member))
      exact maxNanos_le_iff.mp largest x (List.mem_filter.mpr ⟨member, by simp⟩)

/-! ## The order of the statements -/

theorem name_injective : Function.Injective QueryType.name := by
  intro a b same
  cases a <;> cases b <;> simp [QueryType.name] at same ⊢

theorem keyLe_iff (a b : StatsKey) :
    keyLe a b = true ↔ toLex (a.1.name, a.2) ≤ toLex (b.1.name, b.2) := by
  simp [keyLe, Prod.Lex.toLex_le_toLex]

theorem keyLe_antisymm {a b : StatsKey} (below : keyLe a b = true) (above : keyLe b a = true) :
    a = b := by
  have same := le_antisymm ((keyLe_iff a b).mp below) ((keyLe_iff b a).mp above)
  obtain ⟨kind, table⟩ := Prod.mk.inj (toLex.injective same)
  exact Prod.ext (name_injective kind) table

theorem pairwise_breakdown (s : Stats) :
    s.breakdown.Pairwise fun a b => keyLe a.1 b.1 = true := by
  apply List.pairwise_mergeSort
  · intro a b c first second
    rw [keyLe_iff] at first second ⊢
    exact le_trans first second
  · intro a b
    rw [Bool.or_eq_true, keyLe_iff, keyLe_iff]
    exact le_total _ _

theorem breakdown_eq_of_perm (distinct : (s.byTable.map Prod.fst).Nodup)
    (same : s.byTable.Perm t.byTable) : s.breakdown = t.breakdown := by
  have shown : s.breakdown.Perm s.byTable := List.mergeSort_perm _ _
  have shownThere : t.breakdown.Perm t.byTable := List.mergeSort_perm _ _
  refine List.Perm.eq_of_pairwise ?_ (pairwise_breakdown s) (pairwise_breakdown t)
    (shown.trans (same.trans shownThere.symm))
  intro a b here there below above
  have member : b ∈ s.byTable := same.mem_iff.mpr (shownThere.mem_iff.mp there)
  exact List.inj_on_of_nodup_map distinct (shown.mem_iff.mp here) member
    (keyLe_antisymm below above)

theorem Accounts.snapshot_eq (holds : s.Accounts samples) (holdsThere : t.Accounts others)
    (same : samples.Perm others) : s.snapshot = t.snapshot := by
  obtain ⟨failed, sum, longest⟩ := totals_perm same
  have entries (key : StatsKey) : s.find? key = t.find? key := by
    have own : (under key samples).Perm (under key others) := same.filter _
    have silent : under key samples = [] ↔ under key others = [] := by
      rw [← List.length_eq_zero_iff, ← List.length_eq_zero_iff, own.length_eq]
    rw [holds.entries, holdsThere.entries, TableStats.ofSamples_perm own]
    simp only [silent]
  have tables : s.byTable.Perm t.byTable := by
    rw [List.perm_ext_iff_of_nodup (.of_map _ holds.distinct) (.of_map _ holdsThere.distinct)]
    intro entry
    rw [mem_byTable_iff holds.distinct, mem_byTable_iff holdsThere.distinct, entries]
  have sameCount : s.count = t.count := by rw [holds.count, holdsThere.count, same.length_eq]
  have sameFailed : s.failed = t.failed := by rw [holds.failed, holdsThere.failed, failed]
  have sameTotal : s.total.nanos = t.total.nanos := by
    rw [holds.total, holdsThere.total, sum]
  have sameLongest : s.longest.nanos = t.longest.nanos := by
    rw [holds.longest, holdsThere.longest, longest]
  rw [snapshot, snapshot, sameCount, sameFailed, breakdown_eq_of_perm holds.distinct tables,
    show s.total = t.total from congrArg Duration.mk sameTotal,
    show s.longest = t.longest from congrArg Duration.mk sameLongest]

/-- After every sequence of calls the overall numbers follow from the breakdown. The breakdown
has one entry for each key under which a statement was recorded since the last reset, and the
entry is made of these statements. Their order does not matter. -/
theorem balanced_run (calls : List StatsCall) (few : (sinceReset calls).length < 2 ^ 64) :
    (run calls).Balanced ∧ ((run calls).byTable.map Prod.fst).Nodup ∧
      (∀ key, match (run calls).find? key with
        | none => under key (sinceReset calls) = []
        | some t => under key (sinceReset calls) ≠ [] ∧
            t.IsMadeOf (under key (sinceReset calls))) ∧
      ∀ others, (sinceReset others).Perm (sinceReset calls) →
        (run others).snapshot = (run calls).snapshot := by
  have holds := accounts_run calls
  refine ⟨holds.balanced few, holds.distinct, ?_, ?_⟩
  · intro key
    rw [holds.entries]
    by_cases silent : under key (sinceReset calls) = []
    · rw [if_pos silent]
      exact silent
    · rw [if_neg silent]
      exact ⟨silent, TableStats.isMadeOf_ofSamples (length_under_lt few key)⟩
  · intro others same
    exact (accounts_run others).snapshot_eq holds same

/-- A reset, a sum beyond the greatest duration, and a duration of nothing behind it. -/
theorem balanced_run_beyondLimits :
    let calls : List StatsCall := [.record ⟨(.insert, "t"), ⟨7⟩, true⟩, .reset,
      .record ⟨(.select, "t"), .greatest, false⟩, .record ⟨(.delete, "t"), ⟨5⟩, true⟩,
      .record ⟨(.select, "t"), .greatest, false⟩, .record ⟨(.select, "u"), .zero, false⟩]
    (sinceReset calls).length < 2 ^ 64 ∧ (run calls).Balanced ∧
      (run calls).total.nanos = 2 ^ 64 - 1 ∧
      (run calls).find? (.select, "t") = some ⟨2, 0, .greatest, .greatest⟩ ∧
      (run calls).find? (.insert, "t") = none ∧
      (run [.record ⟨(.select, "u"), .zero, false⟩, .record ⟨(.select, "t"), .greatest, false⟩,
        .record ⟨(.select, "t"), .greatest, false⟩, .record ⟨(.delete, "t"), ⟨5⟩, true⟩]).snapshot =
        (run calls).snapshot := by
  intro calls
  have few : (sinceReset calls).length < 2 ^ 64 := by decide +kernel
  obtain ⟨balanced, -, -, order⟩ := balanced_run calls few
  refine ⟨few, balanced, by decide +kernel, by decide +kernel, by decide +kernel, order _ ?_⟩
  decide +kernel

end Stats

end RecordSql
