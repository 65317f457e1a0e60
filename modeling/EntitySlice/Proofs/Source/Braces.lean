import EntitySlice.Proofs.Source.Attributes
import EntitySlice.Proofs.Source.TextLines

/-!
# Code in braces

Code in braces ends at the brace that closes the first one. A scan knows how many braces are open
and whether it is in a text, where braces do not count. Code from which the scan comes back to where
it began is `Balanced`; its builders keep it so, whatever the names and texts in it are. It is read
up to the brace behind it, whatever follows that (`readCode_append`).
-/

namespace EntitySlice.Source

/-! ## The scan -/

/-- Where in code a scan can be. -/
inductive CodePlace
  | outside
  /-- In a text between two of these quotes. -/
  | inside (quote : Char)
  /-- In a text behind a backslash. -/
  | escaped (quote : Char)
  deriving DecidableEq, Repr

/-- What a scan of code knows: how many braces are open, and where it is. -/
structure CodeScan where
  depth : Nat
  place : CodePlace
  deriving DecidableEq, Repr

/-- The quotes that texts in code stand between. -/
def quotes : List Char := ['\'', '"', '\x60']

namespace CodeScan

/-- Where a scan begins. -/
def start : CodeScan := ⟨0, .outside⟩

/-- The scan behind a character, unless that is a brace that closes none of those before it. -/
def step? (s : CodeScan) (c : Char) : Option CodeScan :=
  match s.place with
  | .inside q =>
    some ⟨s.depth, if c = '\\' then .escaped q else if c = q then .outside else .inside q⟩
  | .escaped q => some ⟨s.depth, .inside q⟩
  | .outside =>
    if c = '\x7b' then some ⟨s.depth + 1, .outside⟩
    else if c = '\x7d' then if s.depth = 0 then none else some ⟨s.depth - 1, .outside⟩
    else if quotes.contains c then some ⟨s.depth, .inside c⟩
    else some s

/-- The scan behind some characters. -/
def run? (s : CodeScan) (cs : List Char) : Option CodeScan := cs.foldlM step? s

theorem run?_append (s : CodeScan) (cs ds : List Char) :
    s.run? (cs ++ ds) = (s.run? cs).bind (·.run? ds) :=
  List.foldlM_append

theorem run?_cons (s : CodeScan) (c : Char) (cs : List Char) :
    s.run? (c :: cs) = (s.step? c).bind (·.run? cs) :=
  List.foldlM_cons

/-- Braces that are open further out do not matter. -/
theorem step?_deeper {s t : CodeScan} {c : Char} (h : s.step? c = some t) (n : Nat) :
    step? ⟨s.depth + n, s.place⟩ c = some ⟨t.depth + n, t.place⟩ := by
  obtain ⟨depth, place⟩ := s
  cases place with
  | inside q | escaped q =>
    obtain rfl := Option.some.inj h
    rfl
  | outside =>
    simp only [step?] at h ⊢
    by_cases hopen : c = '\x7b'
    · rw [if_pos hopen] at h ⊢
      obtain rfl := Option.some.inj h
      rw [Nat.add_right_comm]
    rw [if_neg hopen] at h ⊢
    by_cases hclose : c = '\x7d'
    · rw [if_pos hclose] at h ⊢
      split at h
      · simp at h
      · next hdepth =>
        obtain rfl := Option.some.inj h
        rw [if_neg (by omega), Nat.sub_add_comm (by omega)]
    rw [if_neg hclose] at h ⊢
    split at h
    · next hquote =>
      obtain rfl := Option.some.inj h
      rw [if_pos hquote]
    · next hquote =>
      obtain rfl := Option.some.inj h
      rw [if_neg hquote]

theorem run?_deeper {s t : CodeScan} {cs : List Char} (h : s.run? cs = some t) (n : Nat) :
    run? ⟨s.depth + n, s.place⟩ cs = some ⟨t.depth + n, t.place⟩ := by
  induction cs generalizing s with
  | nil =>
    obtain rfl := Option.some.inj h
    rfl
  | cons c cs ih =>
    rw [run?_cons] at h ⊢
    obtain ⟨u, hu, h⟩ := Option.bind_eq_some_iff.mp h
    rw [step?_deeper hu n, Option.bind_some]
    exact ih h

end CodeScan

/-! ## Balanced code -/

/-- Whether code stands on one line and a scan of it comes back to where it began. -/
structure Balanced (s : String) : Prop where
  run? : CodeScan.start.run? s.toList = some .start
  oneLine : OneLine s

instance (s : String) : Decidable (Balanced s) :=
  decidable_of_iff (CodeScan.start.run? s.toList = some .start ∧ OneLine s)
    ⟨fun h => ⟨h.1, h.2⟩, fun h => ⟨h.run?, h.oneLine⟩⟩

namespace Balanced

variable {s t : String}

/-- The characters of a text decide; a text is slow to take apart. -/
theorem ofList {cs : List Char} (h : CodeScan.start.run? cs = some .start ∧ '\n' ∉ cs) :
    Balanced (String.ofList cs) where
  run? := by rw [String.toList_ofList, h.1]
  oneLine := .ofList h.2

theorem run?_eq (h : Balanced s) (depth : Nat) :
    CodeScan.run? ⟨depth, .outside⟩ s.toList = some ⟨depth, .outside⟩ := by
  have hdeeper := CodeScan.run?_deeper h.run? depth
  simpa [CodeScan.start] using hdeeper

theorem append (hs : Balanced s) (ht : Balanced t) : Balanced (s ++ t) where
  run? := by rw [String.toList_append, CodeScan.run?_append, hs.run?, Option.bind_some, ht.run?]
  oneLine := hs.oneLine.append ht.oneLine

theorem intercalate {texts : List String} (hs : Balanced s) (h : ∀ t ∈ texts, Balanced t) :
    Balanced (s.intercalate texts) := by
  induction texts with
  | nil => exact .ofList (by decide)
  | cons t texts ih =>
    rw [List.forall_mem_cons] at h
    cases texts with
    | nil =>
      rw [String.intercalate_singleton]
      exact h.1
    | cons u texts =>
      rw [String.intercalate_cons_cons]
      exact (h.1.append hs).append (ih h.2)

/-- Words have no braces and no quotes. -/
theorem of_isIdentifierPart (h : ∀ c ∈ s.toList, isIdentifierPart c = true) : Balanced s := by
  have hmarks : ('\x7b' :: '\x7d' :: quotes).all (!isIdentifierPart ·) = true := by decide
  have hstep {c : Char} (hc : isIdentifierPart c = true) :
      CodeScan.start.step? c = some .start := by
    have hnot : c ∉ '\x7b' :: '\x7d' :: quotes := fun hmem => by
      simpa [hc] using List.all_eq_true.mp hmarks c hmem
    simp only [List.mem_cons, not_or] at hnot
    simp only [CodeScan.step?, CodeScan.start]
    rw [if_neg hnot.1, if_neg hnot.2.1, if_neg (by simpa using hnot.2.2)]
  have hrun {cs : List Char} (h : ∀ c ∈ cs, isIdentifierPart c = true) :
      CodeScan.start.run? cs = some .start := by
    induction cs with
    | nil => rfl
    | cons c cs ih =>
      rw [List.forall_mem_cons] at h
      rw [CodeScan.run?_cons, hstep h.1, Option.bind_some, ih h.2]
  exact ⟨hrun h, .of_isIdentifierPart h⟩

/-- Braces around balanced code are closed by each other. -/
theorem braced (h : Balanced s) : Balanced (Source.braced s) where
  run? := by
    have hlist : (Source.braced s).toList = '\x7b' :: (s.toList ++ ['\x7d']) := by
      simp [Source.braced]
    have hopen : CodeScan.start.step? '\x7b' = some ⟨1, .outside⟩ := rfl
    rw [hlist, CodeScan.run?_cons, hopen, Option.bind_some, CodeScan.run?_append, h.run?_eq 1]
    rfl
  oneLine := ((OneLine.ofList (by decide)).append h.oneLine).append (.ofList (by decide))

theorem inBraces {texts : List String} (h : ∀ t ∈ texts, Balanced t) :
    Balanced (Source.inBraces texts) := by
  have hblank : Balanced " " := .ofList (by decide)
  have hbraced : Source.inBraces texts = Source.braced (" " ++ ", ".intercalate texts ++ " ") := by
    simp [Source.inBraces, Source.braced, ← String.toList_inj]
  rw [hbraced]
  exact ((hblank.append (.intercalate (.ofList (by decide)) h)).append hblank).braced

/-- The scan stays in the text that a literal is for up to the quote at the end. -/
theorem literal (s : String) : Balanced (Source.literal s) := by
  have hchar (c : Char) : CodeScan.run? ⟨0, .inside '\''⟩ (escapeChar c) =
      some ⟨0, .inside '\''⟩ := by
    rcases escapeChar_cases c with ⟨hplain, hquote, hbackslash⟩ | ⟨-, he⟩ | ⟨-, he⟩ | ⟨-, d, -, he⟩
    · have hstep : CodeScan.step? ⟨0, .inside '\''⟩ c = some ⟨0, .inside '\''⟩ := by
        simp only [CodeScan.step?, if_neg hbackslash, if_neg hquote]
      rw [hplain, CodeScan.run?_cons, hstep]
      rfl
    all_goals
      rw [he]
      rfl
  have hinside (cs : List Char) : CodeScan.run? ⟨0, .inside '\''⟩ (escapeChars cs) =
      some ⟨0, .inside '\''⟩ := by
    induction cs with
    | nil => rfl
    | cons c cs ih =>
      rw [escapeChars, List.flatMap_cons, CodeScan.run?_append, hchar, Option.bind_some]
      exact ih
  have hopen : CodeScan.start.step? '\'' = some ⟨0, .inside '\''⟩ := rfl
  have hlist : (Source.literal s).toList = '\'' :: (escapeChars s.toList ++ ['\'']) := by
    simp [Source.literal, literalChars]
  refine ⟨?_, oneLine_literal s⟩
  rw [hlist, CodeScan.run?_cons, hopen, Option.bind_some, CodeScan.run?_append, hinside,
    Option.bind_some]
  rfl

/-- A text between backquotes is passed over if it has neither of these nor backslashes. -/
theorem template (h : ∀ c ∈ s.toList, c ∉ ['\x60', '\\', '\n']) : Balanced ("`" ++ s ++ "`") := by
  have hinside {cs : List Char} (h : ∀ c ∈ cs, c ∉ ['\x60', '\\', '\n']) :
      CodeScan.run? ⟨0, .inside '\x60'⟩ cs = some ⟨0, .inside '\x60'⟩ := by
    induction cs with
    | nil => rfl
    | cons c cs ih =>
      rw [List.forall_mem_cons] at h
      have hc := h.1
      simp only [List.mem_cons, not_or] at hc
      have hstep : CodeScan.step? ⟨0, .inside '\x60'⟩ c = some ⟨0, .inside '\x60'⟩ := by
        simp only [CodeScan.step?, if_neg hc.2.1, if_neg hc.1]
      rw [CodeScan.run?_cons, hstep, Option.bind_some]
      exact ih h.2
  have hopen : CodeScan.start.step? '\x60' = some ⟨0, .inside '\x60'⟩ := rfl
  have hlist : ("`" ++ s ++ "`").toList = '\x60' :: (s.toList ++ ['\x60']) := by simp
  have hs : OneLine s := fun hmem => absurd (h '\n' hmem) (by decide)
  refine ⟨?_, ((OneLine.ofList (by decide)).append hs).append (.ofList (by decide))⟩
  rw [hlist, CodeScan.run?_cons, hopen, Option.bind_some, CodeScan.run?_append, hinside h,
    Option.bind_some]
  rfl

theorem propertyKey (name : String) : Balanced (Source.propertyKey name) := by
  unfold Source.propertyKey
  split
  · next h => exact .of_isIdentifierPart fun c hc => isIdentifierPart_of_mem h hc
  · exact .literal name

theorem member (h : Balanced s) (name : String) : Balanced (Source.member s name) := by
  unfold Source.member
  split
  · next hname =>
    have hpart : Balanced name := .of_isIdentifierPart fun c hc => isIdentifierPart_of_mem hname hc
    exact (h.append (.ofList (by decide))).append hpart
  · exact ((h.append (.ofList (by decide))).append (.literal name)).append (.ofList (by decide))

theorem literalList (texts : List String) : Balanced (Source.literalList texts) := by
  have hitems : ∀ t ∈ texts.map Source.literal, Balanced t :=
    List.forall_mem_map.mpr fun s _ => .literal s
  have hlist : Balanced (", ".intercalate (texts.map Source.literal)) :=
    .intercalate (.ofList (by decide)) hitems
  exact (append (.ofList (by decide)) hlist).append (.ofList (by decide))

end Balanced

/-! ## Reading -/

/-- The code up to the brace that closes more than was opened, and what follows the brace. -/
def readCode (s : CodeScan) : List Char → Option (List Char × List Char)
  | [] => none
  | c :: cs =>
    match s.step? c with
    | none => some ([], cs)
    | some t => (readCode t cs).map (Prod.map (c :: ·) id)

/-- Code that the scan gets through belongs to what is read. -/
theorem readCode_of_run? {s t : CodeScan} {cs : List Char} (h : s.run? cs = some t)
    (rest : List Char) :
    readCode s (cs ++ rest) = (readCode t rest).map (Prod.map (cs ++ ·) id) := by
  induction cs generalizing s with
  | nil =>
    obtain rfl := Option.some.inj h
    rw [List.nil_append]
    cases readCode s rest with
    | none => rfl
    | some r => rfl
  | cons c cs ih =>
    rw [CodeScan.run?_cons] at h
    obtain ⟨u, hu, h⟩ := Option.bind_eq_some_iff.mp h
    rw [List.cons_append, readCode, hu]
    simp only [ih h, Option.map_map]
    rfl

/-- **Balanced code is read up to the brace behind it**, whatever follows that. -/
theorem readCode_append {s : String} (h : Balanced s) (rest : List Char) :
    readCode .start (s.toList ++ '\x7d' :: rest) = some (s.toList, rest) := by
  have hclose : readCode .start ('\x7d' :: rest) = some ([], rest) := rfl
  rw [readCode_of_run? h.run?, hclose]
  simp

end EntitySlice.Source
