import EntitySlice.Proofs.Json.Compact
import EntitySlice.Proofs.Writing
import EntitySlice.Service

/-!
# The service answers for the library

Submissions are answered one after the other. Each of them does what the library does on the schema
in its body, in the state that the submissions before it have left (`serveIn_refines`): the answer
is 200 exactly when there is a schema and the run on it completes, the state after it is the one
that the run leaves, and every failure has the same answer.

* `Service.Asks` — whether a body asks for a run on a schema
* `Service.Refines` — all that one answer says about the run
-/

namespace EntitySlice

open EntitySlice.Json EntitySlice.Number

namespace Service

/-! ## Bodies -/

/-- Whether a body asks for a run on the text of a schema. -/
structure Asks (body : ByteArray) (text : String) : Prop where
  size : body.size ≤ maxBodySize
  content : ∃ s, String.fromUTF8? body = some s ∧ requestedSchema s = .ok text

theorem submittedSchema_eq_ok_iff {body : ByteArray} {text : String} :
    submittedSchema body = .ok text ↔ Asks body text := by
  unfold submittedSchema
  constructor
  · intro h
    split at h
    · simp at h
    · next hsize =>
      split at h
      · simp at h
      · next s hs =>
        cases hr : requestedSchema s with
        | error x => simp [hr, Except.mapError] at h
        | ok t =>
          rw [hr] at h
          obtain rfl := Except.ok.inj h
          exact ⟨Nat.le_of_not_lt hsize, s, hs, hr⟩
  · rintro ⟨hsize, s, hs, hr⟩
    rw [if_neg (Nat.not_lt_of_le hsize), hs]
    simp only [hr]
    rfl

theorem Asks.unique {body : ByteArray} {text text' : String} (h : Asks body text)
    (h' : Asks body text') : text = text' :=
  Except.ok.inj ((submittedSchema_eq_ok_iff.mpr h).symm.trans (submittedSchema_eq_ok_iff.mpr h'))

/-! ## Answers -/

/-- The document in an answer with a message. -/
def replyDocument (status : Nat) (message : String) : Json.Value :=
  .object [("message", .string message), ("status", .number (.integer status))]

/-- The message that a slice has been written. -/
def successMessage (r : Report) : String :=
  s!"Generated {natText r.files.length} files for '{r.folder}' under "
    ++ s!"src/app/{r.root.name}/{r.folder}"

/-- **The body of an answer is read as its message and its status.** -/
theorem parse?_reply {status : Nat} (h : (Json.Number.integer status).InRange) (message : String) :
    parse? (reply status message).body = some (replyDocument status message) := by
  refine parse?_compact (.object (by simp) ?_) ?_
  · rw [List.forall_mem_cons, List.forall_mem_singleton]
    exact ⟨.string message, .number h⟩
  · intro x hx
    simp [Value.numbers, memberNumbers] at hx

theorem inRange_integer {n : Nat} (h : n ≤ maxSignificand) : (Json.Number.integer n).InRange :=
  ⟨by omega, by exact_mod_cast h⟩

theorem failureReply_eq :
    failureReply =
      ⟨500, "\x7b\"message\":\"Failed to generate slice\",\"status\":500\x7d"⟩ := by
  decide +kernel

theorem parse?_successReply (r : Report) :
    parse? (successReply r).body = some (replyDocument 200 (successMessage r)) :=
  parse?_reply (inRange_integer (by decide)) _

theorem exists_parse?_failureReply :
    ∃ message, parse? failureReply.body = some (replyDocument failureReply.status message) :=
  ⟨_, parse?_reply (inRange_integer (by decide)) _⟩

theorem failureReply_status : ¬failureReply.status = 200 := by decide

variable {σ : Type} [FileStore (StateM σ)] (g : Generator)

/-- A request that submits a body. -/
def submission (body : ByteArray) : Request := ⟨"POST", "/api/template-generator", body⟩

/-- The answer to a submission in a state, and the state after it. -/
def answerIn (body : ByteArray) (s : σ) : Response × σ :=
  (respond g (submission body) : StateM σ Response) s

/-- The answers to submissions, one after the other, and the state after them. -/
def serveIn (bodies : List ByteArray) (s : σ) : List Response × σ :=
  ((bodies.map submission).mapM (respond g) : StateM σ (List Response)) s

/-- A submission leads to the place for submissions. -/
theorem respond_submission (body : ByteArray) :
    (respond g (submission body) : StateM σ Response) = submit g body := by
  have hmethod : ¬(submission body).method = "OPTIONS" := by
    show ¬"POST" = "OPTIONS"
    decide
  have hplace : placeOf? (submission body).target = some .submission := by
    show placeOf? "/api/template-generator" = _
    decide
  rw [respond, if_neg hmethod, hplace]
  exact if_pos rfl

/-- A submission without a schema changes nothing. -/
theorem answerIn_of_not_asks {body : ByteArray} (h : ∀ text, ¬Asks body text) (s : σ) :
    answerIn g body s = (failureReply, s) := by
  unfold answerIn
  rw [respond_submission, submit]
  cases hb : submittedSchema body with
  | ok text => exact absurd (submittedSchema_eq_ok_iff.mp hb) (h text)
  | error x => rfl

/-- A submission with a schema is a run on it. -/
theorem answerIn_of_asks {body : ByteArray} {text : String} (h : Asks body text) (s : σ) :
    answerIn g body s =
      match g.generateIn text s with
      | (.ok report, s') => (successReply report, s')
      | (.error _, s') => (failureReply, s') := by
  unfold answerIn Generator.generateIn
  rw [respond_submission, submit, submittedSchema_eq_ok_iff.mpr h]
  simp only [bind, StateT.bind]
  rcases (g.generate text : StateM σ (Except Failure Report)) s with ⟨r, s'⟩
  cases r <;> rfl

/-! ## One submission after the other -/

theorem serveIn_nil (s : σ) : serveIn g [] s = ([], s) := rfl

theorem serveIn_cons (body : ByteArray) (bodies : List ByteArray) (s : σ) :
    serveIn g (body :: bodies) s =
      ((answerIn g body s).1 :: (serveIn g bodies (answerIn g body s).2).1,
        (serveIn g bodies (answerIn g body s).2).2) := by
  unfold serveIn answerIn
  rw [List.map_cons, List.mapM_cons]
  rfl

/-- **Later submissions are answered in the state that the earlier ones have left.** -/
theorem serveIn_append (earlier later : List ByteArray) (s : σ) :
    serveIn g (earlier ++ later) s =
      ((serveIn g earlier s).1 ++ (serveIn g later (serveIn g earlier s).2).1,
        (serveIn g later (serveIn g earlier s).2).2) := by
  induction earlier generalizing s with
  | nil => rfl
  | cons body earlier ih =>
    rw [List.cons_append, serveIn_cons, ih, serveIn_cons]
    rfl

theorem length_serveIn (bodies : List ByteArray) (s : σ) :
    (serveIn g bodies s).1.length = bodies.length := by
  induction bodies generalizing s with
  | nil => rfl
  | cons body bodies ih => rw [serveIn_cons, List.length_cons, ih, List.length_cons]

/-- The answer to a submission is its answer in the state that the earlier ones have left. -/
theorem getElem?_serveIn (earlier later : List ByteArray) (body : ByteArray) (s : σ) :
    (serveIn g (earlier ++ body :: later) s).1[earlier.length]? =
      some (answerIn g body (serveIn g earlier s).2).1 := by
  rw [serveIn_append, serveIn_cons,
    List.getElem?_append_right (length_serveIn g earlier s).le, length_serveIn, Nat.sub_self,
    List.getElem?_cons_zero]

/-- The state after a submission is the state after its answer. -/
theorem serveIn_concat (earlier : List ByteArray) (body : ByteArray) (s : σ) :
    (serveIn g (earlier ++ [body]) s).2 = (answerIn g body (serveIn g earlier s).2).2 := by
  rw [serveIn_append, serveIn_cons, serveIn_nil]

/-! ## The library behind an answer -/

/--
What the answer to a submission says about the run of the library that it stands for, and what the
submission does to the state.
-/
structure Refines (body : ByteArray) (before : σ) (r : Response) (after : σ) : Prop where
  succeeds : r.status = 200 ↔
    body.size ≤ maxBodySize ∧ ∃ s text report, String.fromUTF8? body = some s ∧
      requestedSchema s = .ok text ∧ (g.generateIn text before).1 = .ok report
  /-- The success is told in words. -/
  told : ∀ text report, Asks body text → (g.generateIn text before).1 = .ok report →
    parse? r.body = some (replyDocument 200 (successMessage report))
  /-- All failures look the same. -/
  failed : r.status ≠ 200 →
    r = ⟨500, "\x7b\"message\":\"Failed to generate slice\",\"status\":500\x7d"⟩
  /-- The document in the answer carries the status of the answer. -/
  status : ∃ message, parse? r.body = some (replyDocument r.status message)
  run : ∀ text, Asks body text → after = (g.generateIn text before).2
  idle : (∀ text, ¬Asks body text) → after = before

theorem refines_of_not_asks {body : ByteArray} (h : ∀ text, ¬Asks body text) (s : σ) :
    Refines g body s (answerIn g body s).1 (answerIn g body s).2 := by
  rw [answerIn_of_not_asks g h]
  refine ⟨?_, fun text _ ha => absurd ha (h text), fun _ => failureReply_eq,
    exists_parse?_failureReply, fun text ha => absurd ha (h text), fun _ => rfl⟩
  constructor
  · intro hstatus
    exact absurd hstatus failureReply_status
  · rintro ⟨hsize, t, text, _, ht, htext, _⟩
    exact absurd ⟨hsize, t, ht, htext⟩ (h text)

theorem refines_of_asks {body : ByteArray} {text : String} (h : Asks body text) (s : σ) :
    Refines g body s (answerIn g body s).1 (answerIn g body s).2 := by
  rw [answerIn_of_asks g h]
  have hrun : (∃ report, (g.generateIn text s).1 = .ok report) ↔
      body.size ≤ maxBodySize ∧ ∃ t text report, String.fromUTF8? body = some t ∧
        requestedSchema t = .ok text ∧ (g.generateIn text s).1 = .ok report := by
    obtain ⟨hsize, t, ht, htext⟩ := h
    constructor
    · rintro ⟨report, hreport⟩
      exact ⟨hsize, t, text, report, ht, htext, hreport⟩
    · rintro ⟨-, t', text', report, ht', htext', hreport⟩
      obtain rfl := Option.some.inj (ht.symm.trans ht')
      obtain rfl := Except.ok.inj (htext.symm.trans htext')
      exact ⟨report, hreport⟩
  rcases hg : g.generateIn text s with ⟨report | report, s'⟩
  · rw [hg] at hrun
    refine ⟨(iff_of_false failureReply_status (by simp)).trans hrun, ?_, fun _ => failureReply_eq,
      exists_parse?_failureReply, ?_, fun hno => absurd h (hno text)⟩
    · intro text' r ha hr
      rw [ha.unique h, hg] at hr
      simp at hr
    · intro text' ha
      rw [ha.unique h, hg]
  · rw [hg] at hrun
    refine ⟨(iff_of_true rfl ⟨report, rfl⟩).trans hrun, ?_, fun hno => absurd rfl hno,
      ⟨_, parse?_successReply report⟩, ?_, fun hno => absurd h (hno text)⟩
    · intro text' r ha hr
      rw [ha.unique h, hg] at hr
      obtain rfl := Except.ok.inj hr
      exact parse?_successReply report
    · intro text' ha
      rw [ha.unique h, hg]

/--
**Every one of some submissions is answered for the library**, in the state that the earlier ones
have left, and leaves the state in which the later ones are answered.
-/
theorem serveIn_refines (earlier later : List ByteArray) (body : ByteArray) (s : σ) :
    ∃ r, (serveIn g (earlier ++ body :: later) s).1[earlier.length]? = some r ∧
      Refines g body (serveIn g earlier s).2 r (serveIn g (earlier ++ [body]) s).2 := by
  refine ⟨_, getElem?_serveIn g earlier later body s, ?_⟩
  rw [serveIn_concat]
  by_cases h : ∃ text, Asks body text
  · obtain ⟨text, h⟩ := h
    exact refines_of_asks g h _
  · exact refines_of_not_asks g (not_exists.mp h) _

end Service

end EntitySlice
