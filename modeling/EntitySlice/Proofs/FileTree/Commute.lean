import EntitySlice.Proofs.FileTree.Write

/-!
# Writes that can change places

Two writes share the first part of their ways and then go apart. Up to there both make the same
directories, and both fail if these cannot be made (`write_eq_of_start`); from there on neither
looks at what the other changes (`write_comm_of_directories`).

* `write_comm` — in a well-formed tree the order of two such writes makes no difference, neither to
  the tree nor to what comes of them
-/

namespace EntitySlice.FileTree

variable {t : FileTree} {p q d e : Path} {m n : String}

/-- Whether neither of two operations has an effect on what the other does, or on its result. -/
structure Commute (t : FileTree) (f g : FileTree → FileTree × Except FileError Unit) : Prop where
  left : (g (f t).1).2 = (g t).2
  right : (f (g t).1).2 = (f t).2
  same : Same (g (f t).1).1 (f (g t).1).1

theorem Commute.symm {f g : FileTree → FileTree × Except FileError Unit} (h : Commute t f g) :
    Commute t g f :=
  ⟨h.right, h.left, h.same.symm⟩

/-- An operation that changes nothing and fails whatever else has been done can wait. -/
theorem Commute.of_failure {f g : FileTree → FileTree × Except FileError Unit} {x : FileError}
    (ht : f t = (t, .error x)) (hg : f (g t).1 = ((g t).1, .error x)) : Commute t f g where
  left := by rw [ht]
  right := by rw [ht, hg]
  same := by rw [ht, hg]; exact Agree.refl _

/-- Operations that begin alike can be looked at from where they go on. -/
theorem Commute.of_same_start {f g : FileTree → FileTree × Except FileError Unit} {u : FileTree}
    (hf : f t = f u) (hg : g t = g u) (h : Commute u f g) : Commute t f g where
  left := by rw [hf, hg]; exact h.left
  right := by rw [hf, hg]; exact h.right
  same := by rw [hf, hg]; exact h.same

/-- Directories at all places where the ways meet keep two writes apart. -/
theorem write_comm_of_directories (hp : p.LiesIn d m) (hq : q.LiesIn e n)
    (h : ∀ r ∈ stops t.current p.components, r ∈ stops t.current q.components →
      t.find? r = some .directory) (a b : ByteArray) :
    Commute t (·.write p a) (·.write q b) := by
  have hpq : Agree (· ∈ stops t.current q.components) t (t.write p a).1 :=
    ⟨current_write hp t a, limits_write hp t a,
      fun r hr => find?_write hp t a fun hr' => h r hr' hr⟩
  have hqp : Agree (· ∈ stops t.current p.components) t (t.write q b).1 :=
    ⟨current_write hq t b, limits_write hq t b, fun r hr => find?_write hq t b (h r hr)⟩
  obtain ⟨hleft, hl⟩ := write_congr hq hpq (fun _ hr => hr) b
  obtain ⟨hright, hr⟩ := write_congr hp hqp (fun _ hr => hr) a
  refine ⟨hleft, hright, ?_, ?_, ?_⟩
  · rw [current_write hp, current_write hq, current_write hq, current_write hp]
  · rw [limits_write hp, limits_write hq, limits_write hq, limits_write hp]
  · intro r _
    by_cases hrq : r ∈ stops t.current q.components
    · rw [hl.find? r hrq]
      refine find?_write hp _ a ?_
      rw [current_write hq]
      exact fun hrp => find?_write_of_directory hq b (h r hrp hrq)
    · have hsecond : ((t.write p a).1.write q b).1.find? r = (t.write p a).1.find? r := by
        refine find?_write hq _ b ?_
        rw [current_write hp]
        exact fun hc => absurd hc hrq
      rw [hsecond]
      by_cases hrp : r ∈ stops t.current p.components
      · exact hr.find? r hrp
      · have hfirst : ((t.write q b).1.write p a).1.find? r = (t.write q b).1.find? r := by
          refine find?_write hp _ a ?_
          rw [current_write hq]
          exact fun hc => absurd hc hrp
        rw [hfirst, find?_write hp t a (fun hc => absurd hc hrp),
          find?_write hq t b (fun hc => absurd hc hrq)]

/-- A write whose directory has too long a text fails and does nothing. -/
theorem write_eq_of_checkText {x : FileError} (hp : p.LiesIn d m)
    (hx : checkText t.limits d.text = .error x) (a : ByteArray) :
    t.write p a = (t, .error x) := by
  rw [write_eq hp, makeDirectory_eq t hp.endsInDot, hx]

/-- A write begins with making the directories of the first part of its way. -/
theorem write_eq_of_start {cs ds : List PathComponent} (hp : p.LiesIn d m)
    (hx : checkText t.limits d.text = .ok ()) (hd : d.components = cs ++ ds) (hds : ds ≠ [])
    (a : ByteArray) :
    t.write p a = (t.makeDirectories t.current cs).1.write p a := by
  have hg := grown_makeDirectories t t.current cs
  rw [write_eq hp, write_eq hp, makeDirectory_eq t hp.endsInDot, makeDirectory_eq _ hp.endsInDot,
    hg.limits, hg.current, hx, hd]
  simp only [makeDirectories_append _ _ _ hds, makeDirectories_again]

/-- A write fails where the directories of the first part of its way cannot be made. -/
theorem write_eq_of_error {cs ds : List PathComponent} {x : FileError} (hp : p.LiesIn d m)
    (hx : checkText t.limits d.text = .ok ()) (hd : d.components = cs ++ ds) (hds : ds ≠ [])
    (hm : t.makeDirectories t.current cs = (t, .error x)) (a : ByteArray) :
    t.write p a = (t, .error (if x = .alreadyExists then .notDirectory else x)) := by
  rw [write_eq hp, makeDirectory_eq t hp.endsInDot, hx, hd]
  simp only [makeDirectories_append _ _ _ hds, hm]

theorem map_name_concat (names : List String) (n : String) :
    (names ++ [n]).map PathComponent.name = names.map .name ++ [.name n] := by
  simp

/-- Two lists of names with different heads lead to different places. -/
theorem ne_of_head?_ne {ys zs y z : List String} (h : ys.head? ≠ zs.head?) (hy : y <+: ys)
    (hz : z <+: zs) (hne : y ≠ []) : y ≠ z := by
  rintro rfl
  obtain ⟨x, rest, rfl⟩ := List.exists_cons_of_ne_nil hne
  obtain ⟨_, rfl⟩ := hy
  obtain ⟨_, rfl⟩ := hz
  exact h rfl

/--
**The order of two writes makes no difference if their ways go apart.** They share the way `cs`, and
the names behind it begin with different ones.
-/
theorem write_comm {cs : List PathComponent} {ys zs : List String} (hwf : WellFormed t)
    (hp : p.LiesIn d m) (hq : q.LiesIn e n) (hd : d.components = cs ++ ys.map .name)
    (he : e.components = cs ++ zs.map .name) (hys : ys ≠ []) (hzs : zs ≠ [])
    (hne : ys.head? ≠ zs.head?) (a b : ByteArray) :
    Commute t (·.write p a) (·.write q b) := by
  have hds : ys.map PathComponent.name ≠ [] := by simpa using hys
  have hes : zs.map PathComponent.name ≠ [] := by simpa using hzs
  cases hpt : checkText t.limits d.text with
  | error x =>
    refine Commute.of_failure (write_eq_of_checkText hp hpt a) ?_
    exact write_eq_of_checkText hp (by rw [limits_write hq, hpt]) a
  | ok _ =>
    cases hqt : checkText t.limits e.text with
    | error x =>
      refine (Commute.of_failure (write_eq_of_checkText hq hqt b) ?_).symm
      exact write_eq_of_checkText hq (by rw [limits_write hp, hqt]) b
    | ok _ =>
      -- Both writes begin with the directories of the common way.
      refine Commute.of_same_start (write_eq_of_start hp hpt hd hds a)
        (write_eq_of_start hq hqt he hes b) ?_
      have hg := grown_makeDirectories t t.current cs
      have hagain := makeDirectories_again t t.current cs
      have hstops : (t.makeDirectories t.current cs).2 = .ok () → ∀ r ∈ stops t.current cs,
          (t.makeDirectories t.current cs).1.find? r = some .directory :=
        directories_of_makeDirectories hwf hwf.current
      rcases hm : t.makeDirectories t.current cs with ⟨u, r⟩
      rw [hm] at hg hagain hstops
      rw [← hg.limits] at hpt hqt
      rw [← hg.current] at hagain hstops
      cases r with
      | error x =>
        have hup := write_eq_of_error hp hpt hd hds hagain a
        have huq := write_eq_of_error hq hqt he hes hagain b
        refine Commute.of_failure hup ?_
        simp only [huq]
        exact hup
      | ok _ =>
        refine write_comm_of_directories hp hq ?_ a b
        intro r hrp hrq
        rw [hp.components, hd, List.append_assoc, ← map_name_concat] at hrp
        rw [hq.components, he, List.append_assoc, ← map_name_concat] at hrq
        rcases mem_stops_append_names hrp with hr | ⟨y, hy, hy0, hry⟩
        · exact hstops rfl r hr
        · rcases mem_stops_append_names hrq with hr | ⟨z, hz, -, hrz⟩
          · exact hstops rfl r hr
          · -- Behind the common way the places are below different names.
            have hyz : y = z := List.append_cancel_left (hry.symm.trans hrz)
            refine absurd hyz (ne_of_head?_ne ?_ hy hz hy0)
            rw [List.head?_append_of_ne_nil _ hys, List.head?_append_of_ne_nil _ hzs]
            exact hne

end EntitySlice.FileTree
