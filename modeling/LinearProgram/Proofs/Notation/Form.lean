import LinearProgram.Notation.Statement
import LinearProgram.Proofs.Notation.Sum

/-!
# Statements as they are written

A declaration, an objective and a constraint have one form each: the parts that are written, in
order, with the blanks between them. The text of a form is all of its parts, and what the form
means is told from the parts alone.

**The readers accept the texts of the forms and no others**, and they give what the form means
(`readDeclaration_eq_ok_iff`, `readObjective_eq_ok_iff`, `readConstraint_eq_ok_iff`). What makes a
text readable is the same in all three: after a part has been read, the next part does not begin
with a character that would still belong to it.
-/

namespace LinearProgram

theorem Name.stops_isBlank (name : Name) (x : Text) : Text.Stops isBlank (name.1 ++ x) :=
  (Text.stops_of_forall fun _ => isBlank_of_mem_name).append name.ne_nil x

theorem Blanks.stops_isWord (blanks : Blanks) {x : Text} (hx : Text.Stops isWord x) :
    Text.Stops isWord (blanks.1 ++ x) :=
  hx.append_of_forall fun c hc => isWord_of_isBlank (blanks.2 c hc)

namespace Text

variable {s name rest : Text}

theorem afterBlanks?_eq_some_iff :
    afterBlanks? s = some rest ↔ ∃ gap : Gap, s = gap.1 ++ rest ∧ Stops isBlank rest := by
  constructor
  · intro h
    cases s with
    | nil => simp [afterBlanks?] at h
    | cons c s =>
      simp only [afterBlanks?] at h
      split at h
      · rename_i hc
        obtain rfl : trimStart s = rest := by simpa using h
        obtain ⟨u, hu, hs⟩ := exists_eq_append_trimStart s
        refine ⟨⟨c :: u, by simp, ?_⟩, congrArg (c :: ·) hs, stops_trimStart s⟩
        intro d hd
        rcases List.mem_cons.1 hd with rfl | hd
        · exact hc
        · exact hu d hd
      · simp at h
  · rintro ⟨⟨gap, hne, hgap⟩, rfl, hstops⟩
    obtain ⟨c, gap, rfl⟩ := List.exists_cons_of_ne_nil hne
    have hrest : trimStart (gap ++ rest) = rest :=
      dropWhile_append_of_stops (fun d hd => hgap d (List.mem_cons_of_mem c hd)) hstops
    simp [afterBlanks?, hgap c List.mem_cons_self, hrest]

theorem leadingName?_eq_some_iff : leadingName? s = some (name, rest) ↔
    isName name = true ∧ s = name ++ rest ∧ Stops isWord rest := by
  constructor
  · intro h
    obtain ⟨hs, hname⟩ := leadingName?_eq_append h
    unfold leadingName? at h
    split at h
    · obtain ⟨-, rfl⟩ : _ ∧ s.dropWhile isWord = rest := by simpa using h
      exact ⟨hname, hs, stops_dropWhile isWord s⟩
    · simp at h
  · rintro ⟨hname, rfl, hstops⟩
    have hword : ∀ c ∈ name, isWord c = true := fun c hc => isWord_of_isName hname hc
    rw [leadingName?, takeWhile_append_of_stops hword hstops,
      dropWhile_append_of_stops hword hstops, if_pos hname]

end Text

namespace Statement

variable {s name body rest x y : Text}

/-! ## Titles -/

/-- What stands between the keyword of a statement and its body: blanks, a name and a colon. -/
@[ext] structure Title where
  gap : Gap
  name : Name
  after : Blanks

namespace Title

/-- The title as it is written. -/
def text (t : Title) : Text := t.gap.1 ++ (t.name.1 ++ (t.after.1 ++ [':']))

theorem text_append (t : Title) (body : Text) :
    t.text ++ body = t.gap.1 ++ (t.name.1 ++ (t.after.1 ++ ':' :: body)) := by
  simp [text]

theorem stops_isBlank_colon (body : Text) : Text.Stops isBlank (':' :: body) :=
  Text.stops_cons (isBlank_of_mem_punctuation ':' (by decide)) body

theorem stops_isWord_after (t : Title) (body : Text) :
    Text.Stops isWord (t.after.1 ++ ':' :: body) :=
  t.after.stops_isWord (Text.stops_cons (isWord_of_mem_punctuation ':' (by decide)) body)

/-- A title and what follows it can be told from the text that they make up. -/
theorem append_inj {t u : Title} (h : t.text ++ x = u.text ++ y) : t = u ∧ x = y := by
  rw [text_append, text_append] at h
  obtain ⟨hgap, h⟩ := Text.append_inj_of_stops t.gap.2.2 u.gap.2.2
    (t.name.stops_isBlank _) (u.name.stops_isBlank _) h
  obtain ⟨hname, h⟩ := Text.append_inj_of_stops (fun c => isWord_of_isName t.name.2)
    (fun c => isWord_of_isName u.name.2) (t.stops_isWord_after x) (u.stops_isWord_after y) h
  obtain ⟨hafter, h⟩ := Text.append_inj_of_stops t.after.2 u.after.2
    (stops_isBlank_colon x) (stops_isBlank_colon y) h
  exact ⟨Title.ext (Subtype.ext hgap) (Subtype.ext hname) (Subtype.ext hafter),
    (List.cons.inj h).2⟩

end Title

theorem named?_eq_some_iff : named? s = some (name, rest) ↔
    ∃ (gap : Gap) (n : Name), n.1 = name ∧ s = gap.1 ++ (name ++ rest) ∧
      Text.Stops isWord rest := by
  simp only [named?, Option.bind_eq_some_iff, Text.afterBlanks?_eq_some_iff,
    Text.leadingName?_eq_some_iff]
  constructor
  · rintro ⟨middle, ⟨gap, rfl, -⟩, hname, rfl, hstops⟩
    exact ⟨gap, ⟨name, hname⟩, rfl, rfl, hstops⟩
  · rintro ⟨gap, n, rfl, rfl, hstops⟩
    exact ⟨_, ⟨gap, rfl, n.stops_isBlank rest⟩, n.2, rfl, hstops⟩

/-- A title is what the reader takes for one. -/
theorem titled?_eq_some_iff : titled? s = some (name, body) ↔
    ∃ t : Title, t.name.1 = name ∧ s = t.text ++ body := by
  constructor
  · intro h
    unfold titled? at h
    split at h
    · rename_i other rest hnamed
      obtain ⟨gap, n, rfl, rfl, -⟩ := named?_eq_some_iff.1 hnamed
      split at h
      · rename_i behind hcolon
        obtain ⟨rfl, rfl⟩ : n.1 = name ∧ behind = body := by simpa using h
        obtain ⟨u, hu, hrest⟩ := Text.exists_eq_append_trimStart rest
        refine ⟨⟨gap, n, ⟨u, hu⟩⟩, rfl, ?_⟩
        rw [Title.text_append, ← hcolon, ← hrest]
      · simp at h
    · simp at h
  · rintro ⟨t, rfl, rfl⟩
    have hnamed : named? (t.text ++ body) = some (t.name.1, t.after.1 ++ ':' :: body) :=
      named?_eq_some_iff.2 ⟨t.gap, t.name, rfl, t.text_append body, t.stops_isWord_after body⟩
    have hcolon : Text.trimStart (t.after.1 ++ ':' :: body) = ':' :: body :=
      Text.dropWhile_append_of_stops t.after.2 (Title.stops_isBlank_colon body)
    simp only [titled?, hnamed, hcolon]

/-! ## Declarations -/

/-- A declaration with everything that is written of it. -/
@[ext] structure DeclarationForm where
  before : Blanks
  gap : Gap
  name : Name
  after : Blanks

namespace DeclarationForm

/-- The declaration as it is written, without the blanks around it. -/
def core (f : DeclarationForm) : Text := varKeyword ++ (f.gap.1 ++ f.name.1)

/-- The declaration as it is written. -/
def text (f : DeclarationForm) : Text := f.before.1 ++ f.core ++ f.after.1

/-- What is declared: a variable with the coefficient zero. -/
def declared (f : DeclarationForm) : Term Number := ⟨f.name.1, 0⟩

end DeclarationForm

theorem trimmed_varKeyword : Text.Trimmed varKeyword := Text.trimmed_of_any_isBlank (by decide)

theorem declared?_eq_some_iff : declared? s = some name ↔
    ∃ (gap : Gap) (n : Name), n.1 = name ∧ s = varKeyword ++ (gap.1 ++ name) := by
  constructor
  · intro h
    unfold declared? at h
    split at h
    · rename_i other hnamed
      obtain rfl : other = name := by simpa using h
      obtain ⟨rest, hvar, hnamed⟩ := Option.bind_eq_some_iff.1 hnamed
      obtain ⟨gap, n, hn, hrest, -⟩ := named?_eq_some_iff.1 hnamed
      refine ⟨gap, n, hn, ?_⟩
      rw [Text.afterPrefix?_eq_some_iff.1 hvar, hrest, List.append_nil]
    · simp at h
  · rintro ⟨gap, n, rfl, rfl⟩
    have hvar : Text.afterPrefix? varKeyword (varKeyword ++ (gap.1 ++ n.1)) =
        some (gap.1 ++ n.1) := Text.afterPrefix?_eq_some_iff.2 rfl
    have hnamed : named? (gap.1 ++ n.1) = some (n.1, []) :=
      named?_eq_some_iff.2 ⟨gap, n, rfl, by simp, Text.stops_nil isWord⟩
    simp [declared?, hvar, hnamed]

theorem DeclarationForm.trim_text (f : DeclarationForm) : Text.trim f.text = f.core := by
  have hcore : Text.Trimmed f.core := by
    simpa [core] using trimmed_varKeyword.append (by decide) f.name.trimmed f.name.ne_nil f.gap.1
  exact hcore.trim_append f.before.2 f.after.2

/-- **Declarations.** -/
theorem readDeclaration_eq_ok_iff {t : Term Number} :
    readDeclaration s = .ok t ↔ ∃ f : DeclarationForm, f.text = s ∧ f.declared = t := by
  constructor
  · intro h
    unfold readDeclaration at h
    split at h
    · rename_i name hname
      obtain ⟨gap, n, rfl, hcore⟩ := declared?_eq_some_iff.1 hname
      obtain ⟨u, v, hu, hv, hs⟩ := Text.exists_eq_append_trim_append s
      refine ⟨⟨⟨u, hu⟩, gap, n, ⟨v, hv⟩⟩, ?_, by simpa [DeclarationForm.declared] using h⟩
      rw [hs, hcore]
      rfl
    · simp at h
  · rintro ⟨f, rfl, rfl⟩
    have hname : declared? f.core = some f.name.1 :=
      declared?_eq_some_iff.2 ⟨f.gap, f.name, rfl, rfl⟩
    simp only [readDeclaration, f.trim_text, hname]
    rfl

/-! ## Objectives -/

/-- The keyword of a direction. -/
def keyword : Direction → Text
  | .minimize => minimizeKeyword
  | .maximize => maximizeKeyword

/-- An objective with everything that is written of it. Its body is read as a sum. -/
@[ext] structure ObjectiveForm where
  before : Blanks
  direction : Direction
  title : Title
  sum : Text
  terms : List (Term Number)
  sum_reads : readTerms none sum = .ok terms

namespace ObjectiveForm

/-- What stands before the body. -/
def heading (f : ObjectiveForm) : Text := keyword f.direction ++ f.title.text

/-- The objective as it is written. -/
def text (f : ObjectiveForm) : Text := f.before.1 ++ (f.heading ++ f.sum)

/-- The objective that is meant. -/
def objective (f : ObjectiveForm) : Objective Number := ⟨f.title.name.1, f.terms, f.direction⟩

end ObjectiveForm

/-- A title that has been found behind the keyword of a direction. -/
theorem exists_title_of_map {found direction : Direction}
    (h : (titled? rest).map (found, ·) = some (direction, name, body)) :
    found = direction ∧ ∃ t : Title, t.name.1 = name ∧ rest = t.text ++ body := by
  obtain ⟨⟨other, behind⟩, htitled, heq⟩ := Option.map_eq_some_iff.1 h
  obtain ⟨rfl, rfl, rfl⟩ : found = direction ∧ other = name ∧ behind = body := by
    simpa using heq
  exact ⟨rfl, titled?_eq_some_iff.1 htitled⟩

theorem objectiveParts?_eq_some_iff {direction : Direction} :
    objectiveParts? s = some (direction, name, body) ↔
      ∃ t : Title, t.name.1 = name ∧ s = keyword direction ++ (t.text ++ body) := by
  constructor
  · intro h
    unfold objectiveParts? at h
    split at h
    · rename_i rest hrest
      obtain ⟨rfl, t, ht, rfl⟩ := exists_title_of_map h
      exact ⟨t, ht, Text.afterPrefix?_eq_some_iff.1 hrest⟩
    · split at h
      · rename_i rest hrest
        obtain ⟨rfl, t, ht, rfl⟩ := exists_title_of_map h
        exact ⟨t, ht, Text.afterPrefix?_eq_some_iff.1 hrest⟩
      · simp at h
  · rintro ⟨t, rfl, rfl⟩
    have htitled : titled? (t.text ++ body) = some (t.name.1, body) :=
      titled?_eq_some_iff.2 ⟨t, rfl, rfl⟩
    have hprefix (p rest : Text) : Text.afterPrefix? p (p ++ rest) = some rest :=
      Text.afterPrefix?_eq_some_iff.2 rfl
    cases direction with
    | minimize => simp [objectiveParts?, keyword, hprefix, htitled]
    | maximize =>
      have hother (rest : Text) :
          Text.afterPrefix? minimizeKeyword (maximizeKeyword ++ rest) = none := rfl
      simp [objectiveParts?, keyword, hother, hprefix, htitled]

theorem trimmed_keyword (direction : Direction) : Text.Trimmed (keyword direction) := by
  cases direction <;> exact Text.trimmed_of_any_isBlank (by decide)

theorem keyword_ne_nil (direction : Direction) : keyword direction ≠ [] := by
  cases direction <;> decide

theorem trimmed_colon : Text.Trimmed [':'] := Text.trimmed_of_any_isBlank (by decide)

theorem ObjectiveForm.trimmed_heading (f : ObjectiveForm) : Text.Trimmed f.heading := by
  have := (trimmed_keyword f.direction).append (keyword_ne_nil _) trimmed_colon (by simp)
    (f.title.gap.1 ++ (f.title.name.1 ++ f.title.after.1))
  simpa [heading, Title.text] using this

/-- Which statement a sum stands in does not matter to what it is read as. -/
theorem readTerms_of_readTerms {statement statement' : Option Text} {ts : List (Term Number)}
    (h : readTerms statement s = .ok ts) : readTerms statement' s = .ok ts :=
  readTerms_eq_ok_iff.2 (readTerms_eq_ok_iff.1 h)

/-- **Objectives.** -/
theorem readObjective_eq_ok_iff {o : Objective Number} :
    readObjective s = .ok o ↔ ∃ f : ObjectiveForm, f.text = s ∧ f.objective = o := by
  constructor
  · intro h
    unfold readObjective at h
    split at h
    · simp at h
    · rename_i direction name body hparts
      obtain ⟨t, rfl, hcore⟩ := objectiveParts?_eq_some_iff.1 hparts
      split at h
      · simp at h
      · rename_i terms hterms
        obtain ⟨u, v, hu, hv, hs⟩ := Text.exists_eq_append_trim_append s
        rw [← readTerms_append_of_blank hv] at hterms
        have hsum : readTerms none (body ++ v) = .ok terms := readTerms_of_readTerms hterms
        refine ⟨⟨⟨u, hu⟩, direction, t, body ++ v, terms, hsum⟩, ?_, ?_⟩
        · rw [hs, hcore]
          simp [ObjectiveForm.text, ObjectiveForm.heading]
        · simpa [ObjectiveForm.objective] using h
  · rintro ⟨f, rfl, rfl⟩
    obtain ⟨body, v, hv, hsum, htrim⟩ := Text.exists_trim_append f.before.2 f.trimmed_heading
      (by simp [ObjectiveForm.heading, keyword_ne_nil]) f.sum
    have hparts : objectiveParts? (Text.trim f.text) =
        some (f.direction, f.title.name.1, body) := by
      rw [ObjectiveForm.text, htrim]
      exact objectiveParts?_eq_some_iff.2 ⟨f.title, rfl, by simp [ObjectiveForm.heading]⟩
    have hterms : readTerms (some f.text) body = .ok f.terms := by
      rw [← readTerms_append_of_blank hv, ← hsum]
      exact readTerms_of_readTerms f.sum_reads
    simp only [readObjective, hparts, hterms]
    rfl

/-! ## Constraints -/

theorem mem_punctuation_of_isOperatorChar {c : Char} (h : isOperatorChar c = true) :
    c ∈ punctuation := by
  simp only [isOperatorChar, Bool.or_eq_true, decide_eq_true_eq] at h
  rcases h with (rfl | rfl) | rfl <;> decide

theorem isOperatorChar_of_isBlank {c : Char} (h : isBlank c = true) : isOperatorChar c = false := by
  by_contra hc
  exact not_mem_punctuation_of_isBlank h (mem_punctuation_of_isOperatorChar (by simpa using hc))

theorem isOperatorChar_of_isWord {c : Char} (h : isWord c = true) : isOperatorChar c = false := by
  by_contra hc
  exact not_mem_punctuation_of_isWord h (mem_punctuation_of_isOperatorChar (by simpa using hc))

theorem filling_not_isOperatorChar : Filling (isOperatorChar · = false) where
  digit c h := isOperatorChar_of_isWord (isWord_of_isDigit h)
  blank c h := isOperatorChar_of_isBlank h
  minus := by decide
  star := by decide
  point := by decide

/-- A body falls into its parts at the first run of operator characters. -/
theorem Comparison.ofBody_append {left token rest : Text}
    (hleft : ∀ c ∈ left, isOperatorChar c = false)
    (htoken : ∀ c ∈ token, isOperatorChar c = true)
    (hstart : Text.Stops (fun c => !isOperatorChar c) (token ++ rest))
    (hrest : Text.Stops isOperatorChar rest) :
    ofBody (left ++ (token ++ rest)) = ⟨left, token, Text.trim rest⟩ := by
  have hleft : ∀ c ∈ left, (!isOperatorChar c) = true := fun c hc => by simp [hleft c hc]
  simp only [ofBody, Text.takeWhile_append_of_stops hleft hstart,
    Text.dropWhile_append_of_stops hleft hstart, Text.takeWhile_append_of_stops htoken hrest,
    Text.dropWhile_append_of_stops htoken hrest]

/-- The parts of a body: what stands before the first operator character, the run of them, and what
does not begin with another one. -/
theorem Comparison.exists_eq_append (body : Text) : ∃ left token rest,
    body = left ++ (token ++ rest) ∧ (∀ c ∈ left, isOperatorChar c = false) ∧
      (∀ c ∈ token, isOperatorChar c = true) ∧
      Text.Stops (fun c => !isOperatorChar c) (token ++ rest) ∧
      Text.Stops isOperatorChar rest := by
  obtain ⟨left, behind, rfl, hleft, hstart⟩ :=
    Text.exists_run_append (fun c => !isOperatorChar c) body
  obtain ⟨token, rest, rfl, htoken, hrest⟩ := Text.exists_run_append isOperatorChar behind
  exact ⟨left, token, rest, rfl, by simpa using hleft, htoken, hstart, hrest⟩

/-- The operators that the strict reading admits. -/
def strictOperators : List Text := [['<', '='], ['>', '='], ['=', '=']]

theorem readOperator_eq_ok_iff {strict : Bool} {token : Text} {relation : Relation} :
    readOperator strict token = .ok relation ↔
      (strict = true → token ∈ strictOperators) ∧ Relation.ofToken token = relation := by
  have hsymbol : (Relation.ofSymbol? token).isNone = true ↔ token ∉ strictOperators := by
    rw [Option.isNone_iff_eq_none, Relation.ofSymbol?, List.find?_eq_none]
    simp [strictOperators, Relation.symbol, @eq_comm _ token]
  rw [readOperator]
  cases strict with
  | false => simp
  | true => by_cases hmem : token ∈ strictOperators <;> simp [hsymbol, hmem]

/-- A constraint with everything that is written of it. Its left side is read as a sum and holds no
character of an operator. -/
@[ext] structure ConstraintForm where
  before : Blanks
  subjectGap : Gap
  title : Title
  sum : Text
  terms : List (Term Number)
  sum_reads : readTerms none sum = .ok terms
  sum_free : ∀ c ∈ sum, isOperatorChar c = false
  operator : Text
  operator_ne_nil : operator ≠ []
  operator_chars : ∀ c ∈ operator, isOperatorChar c = true
  gap : Blanks
  minus : Option Blanks
  literal : Literal
  after : Blanks

namespace ConstraintForm

/-- What stands before the left side. -/
def heading (f : ConstraintForm) : Text :=
  subjectKeyword ++ (f.subjectGap.1 ++ (toKeyword ++ f.title.text))

/-- The constant as it is written. -/
def constantText (f : ConstraintForm) : Text := minusText f.minus ++ f.literal.text

/-- What stands behind the title, without the blanks at the end. -/
def comparison (f : ConstraintForm) : Text :=
  f.sum ++ (f.operator ++ (f.gap.1 ++ f.constantText))

/-- The constraint as it is written. -/
def text (f : ConstraintForm) : Text := f.before.1 ++ (f.heading ++ f.comparison) ++ f.after.1

/-- The relation that the operator means, which is any run of its characters. -/
def relation (f : ConstraintForm) : Relation :=
  if '<' ∈ f.operator then .atMost else if '>' ∈ f.operator then .atLeast else .equal

/-- The constraint that is meant. -/
def constraint (f : ConstraintForm) : Constraint Number :=
  ⟨f.title.name.1, f.terms, signed f.minus f.literal.value, f.relation⟩

/-- Whether the operator is admitted. -/
def Admitted (strict : Bool) (f : ConstraintForm) : Prop :=
  strict = true → f.operator ∈ strictOperators

theorem ofToken_operator (f : ConstraintForm) : Relation.ofToken f.operator = f.relation := by
  simp [Relation.ofToken, relation]

end ConstraintForm

theorem trimmed_subjectKeyword : Text.Trimmed subjectKeyword :=
  Text.trimmed_of_any_isBlank (by decide)

theorem trimmed_toKeyword : Text.Trimmed toKeyword := Text.trimmed_of_any_isBlank (by decide)

theorem stops_isBlank_toKeyword (x : Text) : Text.Stops isBlank (toKeyword ++ x) :=
  trimmed_toKeyword.stops_isBlank.append (by decide) x

theorem constraintParts?_eq_some_iff : constraintParts? s = some (name, body) ↔
    ∃ (gap : Gap) (t : Title), t.name.1 = name ∧
      s = subjectKeyword ++ (gap.1 ++ (toKeyword ++ (t.text ++ body))) := by
  simp only [constraintParts?, Option.bind_eq_some_iff, Text.afterPrefix?_eq_some_iff,
    Text.afterBlanks?_eq_some_iff, titled?_eq_some_iff]
  constructor
  · rintro ⟨_, ⟨_, ⟨_, rfl, gap, rfl, -⟩, rfl⟩, t, rfl, rfl⟩
    exact ⟨gap, t, rfl, rfl⟩
  · rintro ⟨gap, t, rfl, rfl⟩
    exact ⟨_, ⟨_, ⟨_, rfl, gap, rfl, stops_isBlank_toKeyword _⟩, rfl⟩, t, rfl, rfl⟩

theorem head?_literal_text (l : Literal) : l.text.head? ≠ some '-' := fun h =>
  l.not_mem_text (by decide) (by decide) (List.mem_of_head? h)

theorem readConstant_constantText (statement : Text) (f : ConstraintForm) :
    readConstant statement f.constantText = .ok (signed f.minus f.literal.value) := by
  have hread : readLiteral? f.literal.text = some f.literal.value :=
    readLiteral?_eq_some_iff.2 ⟨f.literal, rfl, rfl⟩
  simp only [readConstant, ConstraintForm.constantText,
    splitMinus_minusText_append f.minus f.literal.trimmed_text fun _ => head?_literal_text _,
    hread]
  rfl

theorem exists_of_readConstant {statement : Text} {value : Number}
    (h : readConstant statement s = .ok value) :
    ∃ (minus : Option Blanks) (literal : Literal) (after : Blanks),
      s = minusText minus ++ literal.text ++ after.1 ∧ signed minus literal.value = value := by
  obtain ⟨minus, after, hs, hsign⟩ := exists_of_splitMinus s
  simp only [readConstant] at h
  split at h
  · rename_i magnitude hmagnitude
    obtain ⟨literal, hliteral, rfl⟩ := readLiteral?_eq_some_iff.1 hmagnitude
    refine ⟨minus, literal, after, by rw [hliteral]; exact hs, ?_⟩
    simpa [signed, hsign] using h
  · simp at h

namespace ConstraintForm

theorem isOperatorChar_of_mem_constantText {f : ConstraintForm} {c : Char}
    (hc : c ∈ f.constantText) : isOperatorChar c = false := by
  rcases List.mem_append.1 hc with hc | hc
  · exact filling_not_isOperatorChar.of_mem_minusText f.minus c hc
  · exact filling_not_isOperatorChar.of_mem_literal f.literal c hc

theorem trimmed_constantText (f : ConstraintForm) : Text.Trimmed f.constantText :=
  trimmed_minusText_append f.minus f.literal.trimmed_text f.literal.text_ne_nil

theorem constantText_ne_nil (f : ConstraintForm) : f.constantText ≠ [] := by
  simp [constantText, f.literal.text_ne_nil]

/-- The operator ends where the constant or the blanks before it begin. -/
theorem stops_isOperatorChar (f : ConstraintForm) :
    Text.Stops isOperatorChar (f.gap.1 ++ f.constantText) :=
  (Text.stops_of_forall fun _ hc => isOperatorChar_of_mem_constantText hc).append_of_forall
    fun c hc => isOperatorChar_of_isBlank (f.gap.2 c hc)

/-- The left side ends where the operator begins. -/
theorem stops_operator (f : ConstraintForm) (x : Text) :
    Text.Stops (fun c => !isOperatorChar c) (f.operator ++ x) :=
  (Text.stops_of_forall fun c hc => by simp [f.operator_chars c hc]).append f.operator_ne_nil x

/-- The body of a constraint falls into its parts at the operator. -/
theorem ofBody_comparison (f : ConstraintForm) :
    Comparison.ofBody f.comparison = ⟨f.sum, f.operator, f.constantText⟩ := by
  rw [comparison, Comparison.ofBody_append f.sum_free f.operator_chars (f.stops_operator _)
    f.stops_isOperatorChar, f.trimmed_constantText.trim_append_left f.gap.2]

theorem trim_text (f : ConstraintForm) : Text.trim f.text = f.heading ++ f.comparison := by
  have hcore := trimmed_subjectKeyword.append (by decide) f.trimmed_constantText
    f.constantText_ne_nil (f.subjectGap.1 ++ (toKeyword ++ f.title.text) ++
      (f.sum ++ (f.operator ++ f.gap.1)))
  have : Text.Trimmed (f.heading ++ f.comparison) := by
    simpa [heading, comparison] using hcore
  exact this.trim_append f.before.2 f.after.2

end ConstraintForm

/-- What a comparison is read as when its operator is admitted, and how it is refused otherwise. -/
theorem readComparison_comparison (strict : Bool) (statement : Text) (f : ConstraintForm) :
    readComparison strict statement f.title.name.1 f.comparison =
      match readOperator strict f.operator with
      | .error fault => .error (fault.cause.inStatement statement)
      | .ok relation => .ok { f.constraint with relation } := by
  have hoperator : f.operator.isEmpty = false := by simpa using f.operator_ne_nil
  have hleft : (Text.trim f.sum).isEmpty = false := by
    simpa using trim_ne_nil_of_readTerms f.sum_reads
  have hright : f.constantText.isEmpty = false := by simpa using f.constantText_ne_nil
  have honce : f.constantText.any isOperatorChar = false :=
    List.any_eq_false.2 fun c hc => by simp [f.isOperatorChar_of_mem_constantText hc]
  have hterms : readTerms (some statement) f.sum = .ok f.terms := readTerms_of_readTerms f.sum_reads
  simp only [readComparison, f.ofBody_comparison, hoperator, hleft, hright, honce,
    readConstant_constantText, hterms, Bool.false_eq_true, if_false]
  rfl

/-- A body is its left side, its operator and its right side, with blanks around the last. -/
theorem exists_eq_of_ofBody (body : Text) : ∃ before after : Blanks,
    body = (Comparison.ofBody body).left ++ ((Comparison.ofBody body).token ++
      (before.1 ++ (Comparison.ofBody body).right ++ after.1)) := by
  obtain ⟨left, token, rest, rfl, hleft, htoken, hstart, hrest⟩ := Comparison.exists_eq_append body
  obtain ⟨u, v, hu, hv, hright⟩ := Text.exists_eq_append_trim_append rest
  refine ⟨⟨u, hu⟩, ⟨v, hv⟩, ?_⟩
  rw [Comparison.ofBody_append hleft htoken hstart hrest]
  exact congrArg (fun rest => left ++ (token ++ rest)) hright

/-- What has been checked and read when a body is accepted. -/
structure Compares (strict : Bool) (statement name : Text) (parts : Comparison)
    (c : Constraint Number) : Prop where
  token_ne_nil : parts.token ≠ []
  relation : readOperator strict parts.token = .ok c.relation
  constant : readConstant statement parts.right = .ok c.constant
  terms : readTerms (some statement) parts.left = .ok c.terms
  name_eq : c.name = name

theorem compares_of_readComparison {strict : Bool} {statement : Text} {c : Constraint Number}
    (h : readComparison strict statement name body = .ok c) :
    Compares strict statement name (Comparison.ofBody body) c := by
  simp only [readComparison] at h
  split at h
  · simp at h
  rename_i htoken
  split at h
  · simp at h
  split at h
  · simp at h
  split at h
  · simp at h
  split at h
  · simp at h
  rename_i relation hrelation
  split at h
  · simp at h
  rename_i constant hconstant
  split at h
  · simp at h
  rename_i terms hterms
  obtain rfl : _ = c := by simpa using h
  exact ⟨by simpa using htoken, hrelation, hconstant, hterms, rfl⟩

/-- What the text of a form is read as when its operator is admitted, and how it is refused
otherwise. -/
theorem readConstraint_text (strict : Bool) (f : ConstraintForm) : readConstraint strict f.text =
    match readOperator strict f.operator with
    | .error fault => .error (fault.cause.inStatement f.text)
    | .ok relation => .ok { f.constraint with relation } := by
  have hparts : constraintParts? (f.heading ++ f.comparison) =
      some (f.title.name.1, f.comparison) :=
    constraintParts?_eq_some_iff.2 ⟨f.subjectGap, f.title, rfl, by simp [ConstraintForm.heading]⟩
  simp only [readConstraint, f.trim_text, hparts, readComparison_comparison]

theorem readConstraint_of_admitted {strict : Bool} {f : ConstraintForm} (h : f.Admitted strict) :
    readConstraint strict f.text = .ok f.constraint := by
  rw [readConstraint_text, readOperator_eq_ok_iff.2 ⟨h, f.ofToken_operator⟩]
  rfl

/-- An operator that the strict reading does not admit is the fault of its constraint. -/
theorem readConstraint_of_not_mem {f : ConstraintForm} (h : f.operator ∉ strictOperators) :
    readConstraint true f.text =
      .error (Cause.inStatement (.incomplete (.unsupportedOperator f.operator)) f.text) := by
  rw [readConstraint_text]
  cases hread : readOperator true f.operator with
  | ok relation => exact absurd ((readOperator_eq_ok_iff.1 hread).1 rfl) h
  | error fault =>
    unfold readOperator at hread
    split at hread
    · obtain rfl : _ = fault := by simpa using hread
      rfl
    · simp at hread

/-- **Constraints.** -/
theorem readConstraint_eq_ok_iff {strict : Bool} {c : Constraint Number} :
    readConstraint strict s = .ok c ↔
      ∃ f : ConstraintForm, f.Admitted strict ∧ f.text = s ∧ f.constraint = c := by
  constructor
  · intro h
    unfold readConstraint at h
    split at h
    · simp at h
    · rename_i name body hparts
      obtain ⟨gap, t, rfl, hcore⟩ := constraintParts?_eq_some_iff.1 hparts
      obtain ⟨htoken, hrelation, hconstant, hterms, hname⟩ := compares_of_readComparison h
      obtain ⟨hstrict, htokenRelation⟩ := readOperator_eq_ok_iff.1 hrelation
      obtain ⟨minus, literal, behind, hright, hvalue⟩ := exists_of_readConstant hconstant
      obtain ⟨before, after, hbody⟩ := exists_eq_of_ofBody body
      obtain ⟨u, v, hu, hv, hs⟩ := Text.exists_eq_append_trim_append s
      have hsum : readTerms none (Comparison.ofBody body).left = .ok c.terms :=
        readTerms_of_readTerms hterms
      let f : ConstraintForm := {
        before := ⟨u, hu⟩, subjectGap := gap, title := t
        sum := (Comparison.ofBody body).left, terms := c.terms, sum_reads := hsum
        sum_free := fun c hc => by simpa using List.mem_takeWhile_imp hc
        operator := (Comparison.ofBody body).token, operator_ne_nil := htoken
        operator_chars := fun c hc => List.mem_takeWhile_imp hc
        gap := before, minus := minus, literal := literal
        after := ⟨_, (behind.2.append after.2).append hv⟩ }
      refine ⟨f, hstrict, ?_, ?_⟩
      · calc f.text = u ++ (subjectKeyword ++ (gap.1 ++ (toKeyword ++ (t.text ++
              ((Comparison.ofBody body).left ++ ((Comparison.ofBody body).token ++ (before.1 ++
                (minusText minus ++ literal.text ++ behind.1) ++ after.1))))))) ++ v := by
              simp [f, ConstraintForm.text, ConstraintForm.heading, ConstraintForm.comparison,
                ConstraintForm.constantText]
          _ = s := by rw [← hright, ← hbody, ← hcore, ← hs]
      · have hf : f.relation = c.relation := f.ofToken_operator.symm.trans htokenRelation
        calc f.constraint = ⟨t.name.1, c.terms, signed minus literal.value, f.relation⟩ := rfl
          _ = ⟨c.name, c.terms, c.constant, c.relation⟩ := by rw [hname, hvalue, hf]
          _ = c := rfl
  · rintro ⟨f, h, rfl, rfl⟩
    exact readConstraint_of_admitted h

end Statement

end LinearProgram
