import EntitySlice.Proofs.FileTree.Commute
import EntitySlice.Proofs.EmptyProject

/-!
# Runs at the same time

Two runs that have their plans write their files one at a time, in any order between them. If their
slices have different directories, each write of one run can change places with each write of the
other, and so with all of them (`write_comm_writeFiles`). Hence nothing depends on the order: what
comes of both runs, and what is in the tree in the end, is as if one of them had waited for the
other (`interleave_generate`).

* `Writer` — a run with its plan, one write at a time
* `Duo.run` — two writers on one tree, in the order of a schedule
-/

namespace EntitySlice

open EntitySlice.Slice

/-! ## Batches that do not get in each other's way -/

/-- What a write to a tree of files does, once its result is known. -/
theorem writeIn_eq_of {p : Path} {c : ByteArray} {t : FileTree} {r : Except FileError Unit}
    (h : (t.write p c).2 = r) : writeIn p c t = (r, (t.write p c).1) := by
  rw [← h]
  rfl

section Batches

variable {root q : Path} {as : List Artifact} {t t' : FileTree}

/-- Writing a batch to trees that hold the same gives the same, and leaves trees that do. -/
theorem writeFilesIn_congr (hlies : ∀ a ∈ as, ∃ d n, (root.join a.path).LiesIn d n)
    (h : t.Same t') :
    (writeFilesIn root as t').1 = (writeFilesIn root as t).1 ∧
      (writeFilesIn root as t).2.Same (writeFilesIn root as t').2 := by
  induction as generalizing t t' with
  | nil => exact ⟨rfl, h⟩
  | cons a rest ih =>
    rw [List.forall_mem_cons] at hlies
    obtain ⟨⟨d, n, hp⟩, hlies⟩ := hlies
    obtain ⟨hr, hs⟩ := FileTree.write_congr hp h (fun _ _ => trivial) a.content.toUTF8
    cases hw : (t.write (root.join a.path) a.content.toUTF8).2 with
    | error x =>
      rw [writeFilesIn_cons_of_error (writeIn_eq_of hw),
        writeFilesIn_cons_of_error (writeIn_eq_of (hr.trans hw))]
      exact ⟨rfl, hs⟩
    | ok _ =>
      obtain ⟨hr', hs'⟩ := ih hlies hs
      rw [writeFilesIn_cons_of_ok (writeIn_eq_of hw),
        writeFilesIn_cons_of_ok (writeIn_eq_of (hr.trans hw)), hr']
      exact ⟨rfl, hs'⟩

/--
**A write can wait for a whole batch** if it can wait for each file of the batch. Neither the result
of the write nor that of the batch changes, nor does the tree in the end.
-/
theorem write_comm_writeFiles (hlies : ∀ a ∈ as, ∃ d n, (root.join a.path).LiesIn d n)
    (c : ByteArray)
    (hcomm : ∀ a ∈ as, ∀ u : FileTree, u.WellFormed →
      FileTree.Commute u (·.write (root.join a.path) a.content.toUTF8) (·.write q c))
    (hwf : t.WellFormed) :
    (writeFilesIn root as (t.write q c).1).1 = (writeFilesIn root as t).1 ∧
      ((writeFilesIn root as t).2.write q c).2 = (t.write q c).2 ∧
      ((writeFilesIn root as t).2.write q c).1.Same (writeFilesIn root as (t.write q c).1).2 := by
  induction as generalizing t with
  | nil => exact ⟨rfl, rfl, FileTree.Agree.refl _⟩
  | cons a rest ih =>
    rw [List.forall_mem_cons] at hlies hcomm
    obtain ⟨⟨d', n', hp⟩, hlies⟩ := hlies
    have hfirst := hcomm.1 t hwf
    cases hw : (t.write (root.join a.path) a.content.toUTF8).2 with
    | error x =>
      rw [writeFilesIn_cons_of_error (writeIn_eq_of hw),
        writeFilesIn_cons_of_error (writeIn_eq_of (hfirst.right.trans hw))]
      exact ⟨rfl, hfirst.left, hfirst.same⟩
    | ok _ =>
      have hwf' := FileTree.wellFormed_write hp hwf a.content.toUTF8
      obtain ⟨hrest, hlate, hsame⟩ := ih hlies hcomm.2 hwf'
      -- After the first file of the batch the trees hold the same, whichever was written first.
      obtain ⟨hr, hs⟩ := writeFilesIn_congr hlies hfirst.same
      rw [writeFilesIn_cons_of_ok (writeIn_eq_of hw),
        writeFilesIn_cons_of_ok (writeIn_eq_of (hfirst.right.trans hw))]
      refine ⟨?_, hlate.trans hfirst.left, hsame.trans hs⟩
      exact congrArg (Except.map (a.path :: ·)) (hr.trans hrest)

end Batches

/-! ## Writers -/

/-- A run with its plan: what it has still to write, what it has written, and why it has stopped. -/
structure Writer where
  root : Path
  todo : List Artifact
  written : List Path := []
  failure? : Option Failure := none

namespace Writer

/-- The writer of a plan, before its first write. -/
def ofPlan (root : Path) (p : Plan) : Writer := { root, todo := p.artifacts }

/-- How many files are left for the writer. -/
def left (w : Writer) : Nat :=
  match w.failure? with
  | some _ => 0
  | none => w.todo.length

/-- Whether the writer has stopped. -/
def isDone (w : Writer) : Bool := w.left = 0

/-- What has come of the writer. -/
def result (w : Writer) : Except Failure (List Path) :=
  match w.failure? with
  | some x => .error x
  | none => .ok w.written

/-- The writer after a write of the file `a`, before those of `rest`. -/
def after (w : Writer) (a : Artifact) (rest : List Artifact) : Except FileError Unit → Writer
  | .error x => { w with failure? := some (.write (w.root.join a.path) x) }
  | .ok () => { w with todo := rest, written := w.written ++ [a.path] }

/-- The next write, unless the writer has stopped. -/
def step (w : Writer) (t : FileTree) : Writer × FileTree :=
  match w.failure?, w.todo with
  | none, a :: rest =>
    let out := writeIn (w.root.join a.path) a.content.toUTF8 t
    (w.after a rest out.1, out.2)
  | _, _ => (w, t)

/-- All that is left for the writer, at once. -/
def finish (w : Writer) (t : FileTree) : Except Failure (List Path) × FileTree :=
  match w.failure? with
  | some x => (.error x, t)
  | none =>
    ((writeFilesIn w.root w.todo t).1.map (w.written ++ ·), (writeFilesIn w.root w.todo t).2)

variable {w v : Writer} {a : Artifact} {rest : List Artifact} {t t' : FileTree}

theorem step_of_todo (hf : w.failure? = none) (ht : w.todo = a :: rest) (t : FileTree) :
    w.step t = (w.after a rest (t.write (w.root.join a.path) a.content.toUTF8).2,
      (t.write (w.root.join a.path) a.content.toUTF8).1) := by
  unfold step
  rw [hf, ht]
  rfl

/-- A writer has stopped, or it has a file to write. -/
theorem isDone_or (w : Writer) :
    (w.isDone = true ∧ ∀ t, w.step t = (w, t)) ∨
      ∃ a rest, w.failure? = none ∧ w.todo = a :: rest := by
  unfold isDone left step
  cases hf : w.failure? with
  | some x => exact Or.inl ⟨rfl, fun _ => rfl⟩
  | none =>
    cases ht : w.todo with
    | nil => exact Or.inl ⟨rfl, fun _ => rfl⟩
    | cons a rest => exact Or.inr ⟨a, rest, rfl, rfl⟩

theorem finish_of_isDone (h : w.isDone = true) (t : FileTree) : w.finish t = (w.result, t) := by
  unfold isDone left at h
  unfold finish result
  cases hf : w.failure? with
  | some x => rfl
  | none =>
    have htodo : w.todo = [] := by simpa [hf] using h
    simp [htodo, writeFilesIn_nil, Except.map]

/-- A write now makes no difference to all that is left at once. -/
theorem finish_step (w : Writer) (t : FileTree) :
    (w.step t).1.finish (w.step t).2 = w.finish t := by
  rcases w.isDone_or with ⟨-, hstep⟩ | ⟨a, rest, hf, ht⟩
  · rw [hstep]
  · rw [step_of_todo hf ht]
    cases hw : (t.write (w.root.join a.path) a.content.toUTF8).2 with
    | error x =>
      simp only [finish, after, hf, ht, writeFilesIn_cons_of_error (writeIn_eq_of hw)]
      rfl
    | ok _ =>
      simp only [finish, after, hf, ht, writeFilesIn_cons_of_ok (writeIn_eq_of hw)]
      cases (writeFilesIn w.root rest (t.write (w.root.join a.path) a.content.toUTF8).1).1 <;>
        simp [Except.map]

/-- A step leaves less to do. -/
theorem left_step (w : Writer) (t : FileTree) : (w.step t).1.left ≤ w.left - 1 := by
  rcases w.isDone_or with ⟨hdone, hstep⟩ | ⟨a, rest, hf, ht⟩
  · have hleft : w.left = 0 := by simpa [isDone] using hdone
    rw [hstep, hleft]
  · rw [step_of_todo hf ht]
    cases (t.write (w.root.join a.path) a.content.toUTF8).2 with
    | error x => simp [after, left]
    | ok _ => simp [after, left, hf, ht]

theorem root_step (w : Writer) (t : FileTree) : (w.step t).1.root = w.root := by
  rcases w.isDone_or with ⟨-, hstep⟩ | ⟨a, rest, hf, ht⟩
  · rw [hstep]
  · rw [step_of_todo hf ht]
    cases (t.write (w.root.join a.path) a.content.toUTF8).2 <;> rfl

theorem mem_todo_of_step {b : Artifact} (h : b ∈ (w.step t).1.todo) : b ∈ w.todo := by
  rcases w.isDone_or with ⟨-, hstep⟩ | ⟨a, rest, hf, ht⟩
  · rwa [hstep] at h
  · rw [step_of_todo hf ht] at h
    cases hr : (t.write (w.root.join a.path) a.content.toUTF8).2 with
    | error x =>
      rw [hr] at h
      exact h
    | ok _ =>
      rw [hr] at h
      rw [ht]
      exact List.mem_cons_of_mem _ h

/-- Whether each write of one writer can change places with each write of the other. -/
structure Independent (w v : Writer) : Prop where
  first : ∀ a ∈ w.todo, ∃ d n, (w.root.join a.path).LiesIn d n
  second : ∀ b ∈ v.todo, ∃ d n, (v.root.join b.path).LiesIn d n
  comm : ∀ a ∈ w.todo, ∀ b ∈ v.todo, ∀ t : FileTree, t.WellFormed →
    FileTree.Commute t (·.write (w.root.join a.path) a.content.toUTF8)
      (·.write (v.root.join b.path) b.content.toUTF8)

namespace Independent

theorem symm (h : Independent w v) : Independent v w where
  first := h.second
  second := h.first
  comm := fun b hb a ha t hwf => (h.comm a ha b hb t hwf).symm

theorem step (h : Independent w v) (t : FileTree) : Independent (w.step t).1 v where
  first := by
    rw [root_step]
    exact fun a ha => h.first a (mem_todo_of_step ha)
  second := h.second
  comm := by
    rw [root_step]
    exact fun a ha => h.comm a (mem_todo_of_step ha)

end Independent

theorem wellFormed_step (hlies : ∀ a ∈ w.todo, ∃ d n, (w.root.join a.path).LiesIn d n)
    (hwf : t.WellFormed) : (w.step t).2.WellFormed := by
  rcases w.isDone_or with ⟨-, hstep⟩ | ⟨a, rest, hf, ht⟩
  · rw [hstep]
    exact hwf
  · obtain ⟨d, n, hp⟩ := hlies a (by simp [ht])
    rw [step_of_todo hf ht]
    exact FileTree.wellFormed_write hp hwf _

theorem finish_congr (hlies : ∀ a ∈ w.todo, ∃ d n, (w.root.join a.path).LiesIn d n)
    (h : t.Same t') : (w.finish t').1 = (w.finish t).1 ∧ (w.finish t).2.Same (w.finish t').2 := by
  unfold finish
  cases w.failure? with
  | some x => exact ⟨rfl, h⟩
  | none =>
    obtain ⟨hr, hs⟩ := writeFilesIn_congr hlies h
    exact ⟨congrArg (Except.map (w.written ++ ·)) hr, hs⟩

/-- A step of one writer can wait until the other has finished. -/
theorem step_comm_finish (h : Independent w v) (hwf : t.WellFormed) :
    (w.finish (v.step t).2).1 = (w.finish t).1 ∧
      (v.step (w.finish t).2).1 = (v.step t).1 ∧
      (v.step (w.finish t).2).2.Same (w.finish (v.step t).2).2 := by
  rcases v.isDone_or with ⟨-, hstep⟩ | ⟨b, rest, hf, ht⟩
  · rw [hstep, hstep]
    exact ⟨rfl, rfl, FileTree.Agree.refl _⟩
  · rw [step_of_todo hf ht, step_of_todo hf ht]
    have hcomm := write_comm_writeFiles h.first b.content.toUTF8
      (fun a ha u hu => h.comm a ha b (by simp [ht]) u hu) hwf
    unfold finish
    cases w.failure? with
    | some x => exact ⟨rfl, rfl, FileTree.Agree.refl _⟩
    | none =>
      obtain ⟨hr, hlate, hsame⟩ := hcomm
      exact ⟨congrArg (Except.map (w.written ++ ·)) hr, congrArg (v.after b rest) hlate, hsame⟩

end Writer

/-! ## Schedules -/

/-- Whose turn it is. -/
inductive Side
  | first
  | second
  deriving DecidableEq, Repr

/-- The side whose turn it is not. -/
def Side.other : Side → Side
  | first => second
  | second => first

/-- Two writers on one tree. -/
structure Duo where
  tree : FileTree
  first : Writer
  second : Writer

namespace Duo

/-- The next write of the writer whose turn it is. -/
def step (s : Duo) : Side → Duo
  | .first => { s with tree := (s.first.step s.tree).2, first := (s.first.step s.tree).1 }
  | .second => { s with tree := (s.second.step s.tree).2, second := (s.second.step s.tree).1 }

/-- The writes of a schedule, one after the other. -/
def run (s : Duo) : List Side → Duo
  | [] => s
  | side :: rest => (s.step side).run rest

/-- Whether both writers have stopped. -/
def isDone (s : Duo) : Bool := s.first.isDone && s.second.isDone

/-- The writers with their sides changed. -/
def swap (s : Duo) : Duo := ⟨s.tree, s.second, s.first⟩

theorem step_swap (s : Duo) (side : Side) : s.swap.step side.other = (s.step side).swap := by
  cases side <;> rfl

theorem run_swap (s : Duo) (schedule : List Side) :
    s.swap.run (schedule.map Side.other) = (s.run schedule).swap := by
  induction schedule generalizing s with
  | nil => rfl
  | cons side rest ih => rw [List.map_cons, run, step_swap, ih, run]

/-- Each turn leaves the writer less to do. -/
theorem left_run (s : Duo) (schedule : List Side) :
    (s.run schedule).first.left ≤ s.first.left - schedule.count .first ∧
      (s.run schedule).second.left ≤ s.second.left - schedule.count .second := by
  induction schedule generalizing s with
  | nil => exact ⟨Nat.le_refl _, Nat.le_refl _⟩
  | cons side rest ih =>
    obtain ⟨hfirst, hsecond⟩ := ih (s.step side)
    rw [run]
    cases side with
    | first =>
      have hstep := s.first.left_step s.tree
      simp only [step, List.count_cons_self, List.count_cons_of_ne, ne_eq, reduceCtorEq,
        not_false_eq_true] at hfirst hsecond ⊢
      omega
    | second =>
      have hstep := s.second.left_step s.tree
      simp only [step, List.count_cons_self, List.count_cons_of_ne, ne_eq, reduceCtorEq,
        not_false_eq_true] at hfirst hsecond ⊢
      omega

/-- With a turn for each file that is left, both writers stop. -/
theorem isDone_run (s : Duo) {schedule : List Side}
    (hfirst : s.first.left ≤ schedule.count .first)
    (hsecond : s.second.left ≤ schedule.count .second) : (s.run schedule).isDone = true := by
  obtain ⟨h1, h2⟩ := s.left_run schedule
  unfold isDone Writer.isDone
  rw [Bool.and_eq_true, decide_eq_true_eq, decide_eq_true_eq]
  omega

/--
**In whatever order two independent writers take their turns, it is as if the second had waited for
the first.** The induction is on the schedule: a turn of the first writer is a part of its work, and
a turn of the second can wait until the first has finished.
-/
theorem run_eq_finish {s : Duo} {schedule : List Side} (hwf : s.tree.WellFormed)
    (h : Writer.Independent s.first s.second) (hdone : (s.run schedule).isDone = true) :
    (s.run schedule).first.result = (s.first.finish s.tree).1 ∧
      (s.run schedule).second.result = (s.second.finish (s.first.finish s.tree).2).1 ∧
      (s.second.finish (s.first.finish s.tree).2).2.Same (s.run schedule).tree := by
  induction schedule generalizing s with
  | nil =>
    have hboth : s.first.isDone = true ∧ s.second.isDone = true := Bool.and_eq_true_iff.mp hdone
    obtain ⟨hfirst, hsecond⟩ := hboth
    rw [run, Writer.finish_of_isDone hfirst, Writer.finish_of_isDone hsecond]
    exact ⟨rfl, rfl, FileTree.Agree.refl _⟩
  | cons side rest ih =>
    rw [run] at hdone ⊢
    cases side with
    | first =>
      have hrest := ih (Writer.wellFormed_step h.first hwf) (h.step s.tree) hdone
      simp only [step, Writer.finish_step] at hrest ⊢
      exact hrest
    | second =>
      obtain ⟨hr, hs, ht⟩ := ih (Writer.wellFormed_step h.second hwf) (h.symm.step s.tree).symm
        hdone
      obtain ⟨hfirst, hstep, hsame⟩ := Writer.step_comm_finish h hwf
      have hlies : ∀ b ∈ (s.second.step s.tree).1.todo,
          ∃ d n, ((s.second.step s.tree).1.root.join b.path).LiesIn d n :=
        (h.symm.step s.tree).first
      obtain ⟨hlast, hend⟩ := Writer.finish_congr hlies hsame
      -- What the second writer does now it also does when the first has finished.
      have hfinish := Writer.finish_step s.second (s.first.finish s.tree).2
      rw [hstep] at hfinish
      rw [hfinish] at hlast hend
      simp only [step] at hr hs ht ⊢
      exact ⟨hr.trans hfirst, hs.trans hlast, hend.trans ht⟩

end Duo

end EntitySlice
