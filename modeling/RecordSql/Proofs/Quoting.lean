import Mathlib.Data.List.Basic
/-! # Quoted text

A scan of a text remembers the quote character that is open. `quotes` tells which characters
open a quote; the same character closes it. A text that closes all the quotes it opens can
be scanned on its own: neither the open quote nor the question marks outside quotes depend
on what stands around it. -/
set_option autoImplicit false
namespace RecordSql

variable (quotes : Char → Bool)

def openAfter (opened : Option Char) (c : Char) : Option Char :=
  match opened with
  | some q => if c = q then none else some q
  | none => if quotes c then some c else none

def openBehind (opened : Option Char) (cs : List Char) : Option Char :=
  cs.foldl (openAfter quotes) opened

/-- A text that closes all the quotes it opens. -/
def ClosesQuotes (cs : List Char) : Prop := openBehind quotes none cs = none

instance (cs : List Char) : Decidable (ClosesQuotes quotes cs) :=
  inferInstanceAs (Decidable (openBehind quotes none cs = none))

/-- The positions of the question marks outside quotes, where the text starts at `start`. -/
def marks (opened : Option Char) (start : Nat) : List Char → List Nat
  | [] => []
  | c :: rest =>
    (if opened.isNone && c == '?' then [start] else []) ++
      marks (openAfter quotes opened c) (start + 1) rest

/-- The text with nothing but the quotes left of quoted text. -/
def outline (opened : Option Char) : List Char → List Char
  | [] => []
  | c :: rest =>
    (if opened.all (· == c) then [c] else []) ++ outline (openAfter quotes opened c) rest

variable {quotes}

theorem openBehind_cons (opened : Option Char) (c : Char) (rest : List Char) :
    openBehind quotes opened (c :: rest) = openBehind quotes (openAfter quotes opened c) rest := rfl

theorem openBehind_append (opened : Option Char) (front back : List Char) :
    openBehind quotes opened (front ++ back) =
      openBehind quotes (openBehind quotes opened front) back := by
  simp [openBehind]

theorem marks_append (opened : Option Char) (start : Nat) (front back : List Char) :
    marks quotes opened start (front ++ back) =
      marks quotes opened start front ++
        marks quotes (openBehind quotes opened front) (start + front.length) back := by
  induction front generalizing opened start with
  | nil => rfl
  | cons c rest ih =>
    simp only [List.cons_append, marks, ih, List.append_assoc, openBehind_cons, List.length_cons]
    rw [Nat.add_assoc, Nat.add_comm 1]

theorem outline_append (opened : Option Char) (front back : List Char) :
    outline quotes opened (front ++ back) =
      outline quotes opened front ++ outline quotes (openBehind quotes opened front) back := by
  induction front generalizing opened with
  | nil => rfl
  | cons c rest ih =>
    rw [List.cons_append, outline, outline, ih, List.append_assoc, openBehind_cons]

theorem outline_none_cons (c : Char) (rest : List Char) :
    outline quotes none (c :: rest) = c :: outline quotes (openAfter quotes none c) rest := rfl

/-- Moving a text moves its question marks. -/
theorem marks_add (opened : Option Char) (start shift : Nat) (cs : List Char) :
    marks quotes opened (start + shift) cs = (marks quotes opened shift cs).map (start + ·) := by
  induction cs generalizing opened shift with
  | nil => rfl
  | cons c rest ih =>
    have moved := ih (openAfter quotes opened c) (shift + 1)
    rw [← Nat.add_assoc] at moved
    simp only [marks, moved, List.map_append]
    split <;> rfl

theorem ClosesQuotes.append {front back : List Char} (first : ClosesQuotes quotes front)
    (second : ClosesQuotes quotes back) : ClosesQuotes quotes (front ++ back) := by
  unfold ClosesQuotes at *
  rw [openBehind_append, first, second]

theorem closesQuotes_of_unquoted {cs : List Char} (unquoted : ∀ c ∈ cs, quotes c = false) :
    ClosesQuotes quotes cs := by
  induction cs with
  | nil => rfl
  | cons c rest ih =>
    have head : quotes c = false := unquoted c List.mem_cons_self
    have tail := ih fun d member => unquoted d (List.mem_cons_of_mem c member)
    simpa [ClosesQuotes, openBehind_cons, openAfter, head] using tail

theorem marks_eq_nil {cs : List Char} (opened : Option Char) (start : Nat)
    (unmarked : ∀ c ∈ cs, c ≠ '?') : marks quotes opened start cs = [] := by
  induction cs generalizing opened start with
  | nil => rfl
  | cons c rest ih =>
    have head : c ≠ '?' := unmarked c List.mem_cons_self
    have tail := ih (openAfter quotes opened c) (start + 1) fun d member =>
      unmarked d (List.mem_cons_of_mem c member)
    simp [marks, head, tail]

/-- A quote stays open as long as its character does not occur. -/
theorem openBehind_some {q : Char} {cs : List Char} (absent : q ∉ cs) :
    openBehind quotes (some q) cs = some q := by
  induction cs with
  | nil => rfl
  | cons c rest ih =>
    simp only [List.mem_cons, not_or] at absent
    rw [openBehind_cons, openAfter, if_neg (Ne.symm absent.1), ih absent.2]

theorem marks_some {q : Char} {cs : List Char} (start : Nat) (absent : q ∉ cs) :
    marks quotes (some q) start cs = [] := by
  induction cs generalizing start with
  | nil => rfl
  | cons c rest ih =>
    simp only [List.mem_cons, not_or] at absent
    simp [marks, openAfter, Ne.symm absent.1, ih _ absent.2]

theorem outline_some {q : Char} {cs : List Char} (absent : q ∉ cs) :
    outline quotes (some q) cs = [] := by
  induction cs with
  | nil => rfl
  | cons c rest ih =>
    simp only [List.mem_cons, not_or] at absent
    simp [outline, openAfter, absent.1, Ne.symm absent.1, ih absent.2]

theorem mem_of_mem_outline {opened : Option Char} {cs : List Char} {c : Char}
    (left : c ∈ outline quotes opened cs) : c ∈ cs := by
  induction cs generalizing opened with
  | nil => exact left
  | cons d rest ih =>
    rw [outline, List.mem_append] at left
    rcases left with here | later
    · split at here
      next => exact List.mem_singleton.mp here ▸ List.mem_cons_self
      next => simp at here
    · exact List.mem_cons_of_mem d (ih later)

/-- Without quotes every question mark counts. -/
theorem marks_eq_findIdxs (start : Nat) (cs : List Char) :
    marks (fun _ => false) none start cs = cs.findIdxs (· == '?') start := by
  induction cs generalizing start with
  | nil => rfl
  | cons c rest ih =>
    have stays : openAfter (fun _ => false) none c = none := rfl
    rw [marks, stays, ih, List.findIdxs_cons]
    cases c == '?' <;> rfl

/-- What the scan marks is a question mark. -/
theorem getElem?_of_mem_marks {opened : Option Char} {start i : Nat} {cs : List Char}
    (marked : i ∈ marks quotes opened start cs) : start ≤ i ∧ cs[i - start]? = some '?' := by
  induction cs generalizing opened start with
  | nil => simp [marks] at marked
  | cons c rest ih =>
    rw [marks, List.mem_append] at marked
    rcases marked with here | later
    · split at here
      next isMark =>
        simp only [Bool.and_eq_true, beq_iff_eq] at isMark
        simp only [List.mem_singleton] at here
        simp [here, isMark.2]
      next => simp at here
    · obtain ⟨behind, found⟩ := ih later
      refine ⟨by omega, ?_⟩
      rw [show i - start = (i - (start + 1)) + 1 by omega, List.getElem?_cons_succ, found]

/-- The marked positions ascend. -/
theorem pairwise_marks (opened : Option Char) (start : Nat) (cs : List Char) :
    (marks quotes opened start cs).Pairwise (· < ·) := by
  induction cs generalizing opened start with
  | nil => exact List.Pairwise.nil
  | cons c rest ih =>
    have tail := ih (openAfter quotes opened c) (start + 1)
    rw [marks]
    split
    next =>
      refine List.Pairwise.cons (fun i marked => ?_) tail
      have behind := (getElem?_of_mem_marks marked).1
      omega
    next => exact tail

end RecordSql
