import EntitySlice.Proofs.Batch
import EntitySlice.Proofs.Grammar

/-!
# What is wrong with a batch

A file can break four rules: its path is not made of names alone, it lies outside the directory of
the slice, another file before it has the same place, or it is blank. The check names the first
file that breaks one, and the first rule that this file breaks (`checkBatch_verdict`). Where a file
lies is what its path means, not how it is spelled.
-/

namespace EntitySlice

open EntitySlice.Text

/-! ## Rules -/

/-- The rules for files that belong into `dir`, in the order in which they are checked. -/
def BatchReason.inOrder (dir : Path) : List BatchReason :=
  [.notPlain, .outside dir, .repeated, .blank]

/-- Whether a file that comes after others breaks a rule. -/
def Artifact.Breaks (before : List Artifact) (a : Artifact) : BatchReason → Prop
  | .notPlain => ∃ c ∈ a.path.components, ∀ n, c ≠ .name n
  | .outside dir => ¬dir.components <+: a.path.components
  | .repeated => ∃ b ∈ before, b.path.components = a.path.components
  | .blank => trim a.content = ""

/-- Whether a file that comes after others breaks some rule for files that belong into `dir`. -/
def Artifact.IsCulprit (dir : Path) (before : List Artifact) (a : Artifact) : Prop :=
  ∃ r ∈ BatchReason.inOrder dir, a.Breaks before r

/-- Whether a fault is about the first file that breaks a rule and the first rule it breaks. -/
def BatchFault.IsFirstIn (dir : Path) (as : List Artifact) (x : BatchFault) : Prop :=
  ∃ before a earlier r, IsFirst (Artifact.IsCulprit dir) as before a ∧
    IsFirst (fun _ => a.Breaks before) (BatchReason.inOrder dir) earlier r ∧ x = .refused a r

section

variable {dir : Path} {before : List Artifact} {seen : List (List PathComponent)} {a : Artifact}

theorem isPlain_iff_forall (p : Path) :
    p.isPlain = true ↔ ∀ c ∈ p.components, ∃ n, c = .name n := by
  rw [Path.isPlain, List.all_eq_true]
  refine forall₂_congr fun c _ => ?_
  cases c <;> simp

theorem breaks_notPlain_iff : a.Breaks before .notPlain ↔ a.path.isPlain = false := by
  rw [← Bool.not_eq_true, isPlain_iff_forall]
  simp [Artifact.Breaks]

theorem breaks_outside_iff : a.Breaks before (.outside dir) ↔ a.path.isBelow dir = false := by
  rw [← Bool.not_eq_true, Path.isBelow_iff]
  rfl

theorem breaks_blank_iff : a.Breaks before .blank ↔ isBlankText a.content = true :=
  trim_eq_empty_iff

/-- The rule that a file is refused for is the first one that it breaks. -/
theorem isFirst_of_reason? (hseen : ∀ cs, cs ∈ seen ↔ ∃ b ∈ before, b.path.components = cs)
    {r : BatchReason} (h : a.reason? dir seen = some r) :
    ∃ earlier, IsFirst (fun _ => a.Breaks before) (BatchReason.inOrder dir) earlier r := by
  unfold Artifact.reason? at h
  split at h
  · next hplain =>
    obtain rfl := Option.some.inj h
    exact ⟨[], .head (breaks_notPlain_iff.mpr (by simpa using hplain)) _⟩
  · next hplain =>
    have hnames : ¬a.Breaks before .notPlain := by
      rw [breaks_notPlain_iff]
      exact fun hc => hplain (by simpa using hc)
    split at h
    · next hbelow =>
      obtain rfl := Option.some.inj h
      exact ⟨[.notPlain], .cons hnames
        (.head (breaks_outside_iff.mpr (by simpa using hbelow)) _)⟩
    · next hbelow =>
      have hinside : ¬a.Breaks before (.outside dir) := by
        rw [breaks_outside_iff]
        exact fun hc => hbelow (by simpa using hc)
      split at h
      · next hmem =>
        obtain rfl := Option.some.inj h
        have hmem' : a.path.components ∈ seen := by simpa using hmem
        exact ⟨[.notPlain, .outside dir],
          .cons hnames (.cons hinside (.head ((hseen _).mp hmem') _))⟩
      · next hmem =>
        have hnew : ¬a.Breaks before .repeated := fun hc => hmem (by simpa using (hseen _).mpr hc)
        split at h
        · next hblank =>
          obtain rfl := Option.some.inj h
          exact ⟨[.notPlain, .outside dir, .repeated],
            .cons hnames (.cons hinside (.cons hnew (.head (breaks_blank_iff.mpr hblank) _)))⟩
        · simp at h

theorem isCulprit_iff (hseen : ∀ cs, cs ∈ seen ↔ ∃ b ∈ before, b.path.components = cs) :
    a.IsCulprit dir before ↔ ¬(a.Fits dir ∧ a.path.components ∉ seen) := by
  have hrules : a.IsCulprit dir before ↔ a.Breaks before .notPlain ∨
      a.Breaks before (.outside dir) ∨ a.Breaks before .repeated ∨ a.Breaks before .blank := by
    simp [Artifact.IsCulprit, BatchReason.inOrder]
  have hfits : a.Fits dir ↔ a.path.isPlain = true ∧ a.path.isBelow dir = true ∧
      isBlankText a.content = false :=
    ⟨fun h => ⟨h.isPlain, h.isBelow, h.isNotBlank⟩, fun h => ⟨h.1, h.2.1, h.2.2⟩⟩
  have hrepeated : a.Breaks before .repeated ↔ a.path.components ∈ seen := (hseen _).symm
  rw [hrules, hfits, breaks_notPlain_iff, breaks_outside_iff, breaks_blank_iff, hrepeated]
  grind

end

/-! ## Batches -/

/-- Whether a batch may be written to `dir`. -/
structure IsSafeBatch (dir : Path) (as : List Artifact) : Prop where
  arePlain : ∀ a ∈ as, ∀ c ∈ a.path.components, ∃ n, c = .name n
  areInside : ∀ a ∈ as, dir.components <+: a.path.components
  areApart : as.Pairwise fun a b => a.path.components ≠ b.path.components
  areNotBlank : ∀ a ∈ as, trim a.content ≠ ""

section

variable {dir : Path} {as : List Artifact}

theorem checkBatch_eq_ok_iff_isSafeBatch :
    checkBatch dir as = .ok () ↔ IsSafeBatch dir as := by
  have hblank (a : Artifact) : isBlankText a.content = false ↔ trim a.content ≠ "" := by
    rw [ne_eq, trim_eq_empty_iff, Bool.not_eq_true]
  rw [checkBatch_eq_ok_iff, List.Nodup, List.pairwise_map]
  constructor
  · rintro ⟨hfits, hapart⟩
    exact ⟨fun a ha => (isPlain_iff_forall _).mp (hfits a ha).isPlain,
      fun a ha => (Path.isBelow_iff _ _).mp (hfits a ha).isBelow, hapart,
      fun a ha => (hblank a).mp (hfits a ha).isNotBlank⟩
  · intro h
    exact ⟨fun a ha => ⟨(isPlain_iff_forall _).mpr (h.arePlain a ha),
      (Path.isBelow_iff _ _).mpr (h.areInside a ha), (hblank a).mpr (h.areNotBlank a ha)⟩,
      h.areApart⟩

/-- No file of a safe batch is a culprit. -/
theorem IsSafeBatch.clear (h : IsSafeBatch dir as) : Clear (Artifact.IsCulprit dir) as := by
  rintro before a hprefix ⟨r, hr, hbreaks⟩
  have ha : a ∈ as := hprefix.subset (by simp)
  simp only [BatchReason.inOrder, List.mem_cons, List.not_mem_nil, or_false] at hr
  rcases hr with rfl | rfl | rfl | rfl
  · obtain ⟨c, hc, hname⟩ := hbreaks
    obtain ⟨n, hn⟩ := h.arePlain a ha c hc
    exact hname n hn
  · exact hbreaks (h.areInside a ha)
  · obtain ⟨b, hb, hsame⟩ := hbreaks
    have hapart := List.pairwise_append.mp (h.areApart.sublist hprefix.sublist)
    exact hapart.2.2 b hb a (List.mem_singleton_self a) hsame
  · exact h.areNotBlank a ha hbreaks

/-- The check of the files after others stops at the first culprit. -/
theorem isFirst_of_checkAfter {before : List Artifact} {seen : List (List PathComponent)}
    (hseen : ∀ cs, cs ∈ seen ↔ ∃ b ∈ before, b.path.components = cs) {x : BatchFault}
    (h : checkAfter dir seen as = .error x) :
    ∃ after a earlier r, IsFirst (fun b => Artifact.IsCulprit dir (before ++ b)) as after a ∧
      IsFirst (fun _ => a.Breaks (before ++ after)) (BatchReason.inOrder dir) earlier r ∧
      x = .refused a r := by
  induction as generalizing before seen with
  | nil => simp [checkAfter] at h
  | cons a rest ih =>
    rw [checkAfter] at h
    cases hr : a.reason? dir seen with
    | some r =>
      rw [hr] at h
      obtain ⟨earlier, hfirst⟩ := isFirst_of_reason? hseen hr
      have hculprit : a.IsCulprit dir before :=
        ⟨r, (hfirst.isPrefix.subset (by simp)), hfirst.isBad⟩
      refine ⟨[], a, earlier, r, .head ?_ rest, ?_, (Except.error.inj h).symm⟩
      · rwa [List.append_nil]
      · rwa [List.append_nil]
    | none =>
      rw [hr] at h
      have hfits := Artifact.reason?_eq_none_iff.mp hr
      have hseen' (cs : List PathComponent) : cs ∈ a.path.components :: seen ↔
          ∃ b ∈ before ++ [a], b.path.components = cs := by
        rw [List.mem_cons, hseen]
        simp only [List.mem_append, List.mem_singleton]
        grind
      obtain ⟨after, b, earlier, r, hb, hrule, rfl⟩ := ih hseen' h
      refine ⟨a :: after, b, earlier, r, .cons ?_ ?_, ?_, rfl⟩
      · rw [List.append_nil, isCulprit_iff hseen]
        exact not_not.mpr hfits
      · simpa [List.append_assoc] using hb
      · simpa [List.append_assoc] using hrule

end

/--
**A batch is accepted when it is safe, and otherwise the first culprit is named.** Accepted are the
batches whose paths are made of names alone and lead into the directory of the slice, each to a
place of its own, and whose files are not blank. All others are refused for the first file that
breaks a rule given the files before it, and for the first rule that this file breaks; the fault
bears the key of the file.
-/
theorem checkBatch_verdict (e : Entity) (as : List Artifact) :
    (checkBatch e.sliceDir as = .ok () ↔ IsSafeBatch e.sliceDir as) ∧
      ∀ x, checkBatch e.sliceDir as = .error x ↔ x.IsFirstIn e.sliceDir as := by
  have hnone (cs : List PathComponent) :
      cs ∈ [] ↔ ∃ b ∈ ([] : List Artifact), b.path.components = cs := by simp
  have hfound {x : BatchFault} (h : checkBatch e.sliceDir as = .error x) :
      x.IsFirstIn e.sliceDir as := isFirst_of_checkAfter hnone h
  refine ⟨checkBatch_eq_ok_iff_isSafeBatch, fun x => ⟨hfound, ?_⟩⟩
  rintro ⟨before, a, earlier, r, ha, hr, rfl⟩
  cases hcheck : checkBatch e.sliceDir as with
  | ok _ => exact absurd (checkBatch_eq_ok_iff_isSafeBatch.mp hcheck).clear ha.not_clear
  | error y =>
    obtain ⟨before', a', earlier', r', ha', hr', rfl⟩ := hfound hcheck
    obtain ⟨rfl, rfl⟩ := ha.unique ha'
    obtain ⟨-, rfl⟩ := hr.unique hr'
    rfl

-- Two spellings of one place: that the second file is blank as well is found later.
example :
    checkBatch ⟨"a/b"⟩ [⟨"model", ⟨"a//b/c"⟩, "x"⟩, ⟨"route", ⟨"a/./b/c/"⟩, " "⟩] =
      .error (.refused ⟨"route", ⟨"a/./b/c/"⟩, " "⟩ .repeated) := by rfl

end EntitySlice
