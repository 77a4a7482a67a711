import LinearProgram.Proofs.Notation.Reading
import LinearProgram.Proofs.Text.Piece

/-!
# Joining documents

Two documents with a semicolon between them are one document, whose statements are those of the
first followed by those of the second. So a list of texts can be written as a document and cut into
the same texts again, as long as each of them is what a statement can be
(`Document.statements_intercalate_iff`).

**Replaced objectives** (`Draft.Gathers.append`). What two lists of statements say one after the
other is what each of them says, put together; the second has the last word on the objective.

**Refused objectives** (`Document.read_append_cons_of_refused`). The first document has taken the
one place that there is for an objective. Everything up to the objective of the second can still be
read, so that objective is where the reading stops.
-/

namespace LinearProgram

namespace Document

/-! ## Statements -/

/-- A semicolon ends a statement wherever it stands. -/
theorem statements_append_cons (first rest : Text) :
    statements (first ++ ';' :: rest) = statements first ++ statements rest := by
  simp [statements, Text.splitOn_append_cons]

/-- What a statement can be: a text that is not empty, neither begins nor ends with a blank and
contains no semicolon. -/
structure IsStatement (s : Text) : Prop where
  ne_nil : s ≠ []
  trimmed : Text.Trimmed s
  semicolon_free : ';' ∉ s

theorem isStatement_of_mem {text s : Text} (h : s ∈ statements text) : IsStatement s := by
  obtain ⟨hmem, hne⟩ := List.mem_filter.1 h
  obtain ⟨piece, hpiece, rfl⟩ := List.mem_map.1 hmem
  refine ⟨by simpa using hne, Text.trimmed_trim piece, fun hsemicolon => ?_⟩
  exact Text.not_mem_of_mem_splitOn hpiece ((Text.trim_isInfix piece).subset hsemicolon)

/-- **Statements are kept apart by semicolons**, and nothing but statements is. -/
theorem statements_intercalate_iff {pieces : List Text} :
    statements ([';'].intercalate pieces) = pieces ↔ ∀ s ∈ pieces, IsStatement s := by
  constructor
  · intro h s hs
    rw [← h] at hs
    exact isStatement_of_mem hs
  · intro h
    by_cases hne : pieces = []
    · rw [hne]
      rfl
    · have htrim : pieces.map Text.trim = pieces := by
        conv_rhs => rw [← List.map_id pieces]
        exact List.map_congr_left fun s hs => (h s hs).trimmed
      rw [statements, List.splitOn_intercalate ';' (fun s hs => (h s hs).semicolon_free) hne, htrim,
        List.filter_eq_self]
      exact fun s hs => by simpa using (h s hs).ne_nil

end Document

/-! ## Drafts -/

/-- What two drafts say together, the second after the first. -/
def Draft.followedBy (draft next : Draft) : Draft :=
  ⟨draft.declarations ++ next.declarations, draft.constraints ++ next.constraints,
    next.objective.or draft.objective⟩

/-- **Two lists of statements** say together what each of them says. -/
theorem Draft.Gathers.append {policy : Policy} {first second : List Text} {draft next : Draft}
    (hpolicy : policy.repeatedObjective = .replaces) (h : Gathers policy first draft)
    (hnext : Gathers policy second next) :
    Gathers policy (first ++ second) (draft.followedBy next) where
  readable s hs := (List.mem_append.1 hs).elim (h.readable s) (hnext.readable s)
  declarations := by
    rw [Document.ofKind_append, List.map_append, h.declarations, hnext.declarations, followedBy,
      List.map_append]
  constraints := by
    rw [Document.ofKind_append, List.map_append, h.constraints, hnext.constraints, followedBy,
      List.map_append]
  objective := by
    rw [Document.ofKind_append, List.getLast?_append, Option.map_or, h.objective, hnext.objective,
      followedBy, Option.map_or]
  once hrefused := by simp [hpolicy] at hrefused

namespace Document

/-! ## Documents -/

variable {policy : Policy} {first second : Text} {m n : Model Number}

/-- A document that is read where second objectives are refused has one objective. -/
theorem exists_ofKind_objective (hpolicy : policy.repeatedObjective = .refused)
    (h : read policy first = .ok m) :
    ∃ s, ofKind .objective (statements first) = [s] := by
  have hgathers := exists_gathers_of_read h
  have hne : ofKind .objective (statements first) ≠ [] := fun hnil =>
    absurd (hgathers.objective_eq_none_iff.2 hnil) (by simp)
  have hpos := List.length_pos_iff.2 hne
  have hle := hgathers.once hpolicy
  exact List.length_eq_one_iff.1 (by omega)

theorem read_append_cons_of_replaces (hpolicy : policy.repeatedObjective = .replaces)
    (h : read policy first = .ok m) (hn : read policy second = .ok n) :
    read policy (first ++ ';' :: second) =
      .ok ⟨m.declarations ++ n.declarations, m.constraints ++ n.constraints, n.objective⟩ := by
  rw [read_eq_ok_iff, statements_append_cons]
  exact (exists_gathers_of_read h).append hpolicy (exists_gathers_of_read hn)

theorem read_append_cons_of_refused (hpolicy : policy.repeatedObjective = .refused)
    (h : read policy first = .ok m) (hn : read policy second = .ok n) :
    ∃ s, ofKind .objective (statements second) = [s] ∧
      read policy (first ++ ';' :: second) = .error (Cause.repeatedObjective.inStatement s) := by
  obtain ⟨s₁, hs₁⟩ := exists_ofKind_objective hpolicy h
  obtain ⟨s₂, hs₂⟩ := exists_ofKind_objective hpolicy hn
  have hboth : ofKind .objective (statements first ++ statements second) = [s₁, s₂] := by
    rw [ofKind_append, hs₁, hs₂]
    rfl
  have hreadable : ∀ s ∈ statements first ++ statements second, Statement.Readable policy s :=
    fun s hs => (List.mem_append.1 hs).elim ((exists_gathers_of_read h).readable s)
      ((exists_gathers_of_read hn).readable s)
  refine ⟨s₂, hs₂, ?_⟩
  rw [read, statements_append_cons]
  cases hrun : Draft.extendAll policy {} (statements first ++ statements second) with
  | ok draft =>
    -- All statements would have been gathered, with two objectives among them.
    have honce := ((Draft.gathers_nil policy).extendAll hrun).once hpolicy
    rw [List.nil_append, hboth] at honce
    simp at honce
  | error fault =>
    obtain ⟨before, s, after, last, hsplit, hlast, hstuck⟩ :=
      (Draft.gathers_nil policy).exists_stuck hrun
    cases hstuck with
    | refused hs =>
      exact absurd (hreadable s (by simp [hsplit])) (Statement.not_readable_iff.2 ⟨fault, hs⟩)
    | repeated hk _ _ hsome =>
      -- One of the two objectives has been read before, so the statement is the other.
      have hbefore : ofKind .objective before ≠ [] := fun hnil => by
        rw [List.nil_append] at hlast
        simp [hlast.objective_eq_none_iff.2 hnil] at hsome
      have hparts : ofKind .objective before ++ s :: ofKind .objective after = [s₁, s₂] := by
        rw [← hboth, hsplit, List.append_cons before, ofKind_append, ofKind_concat_self hk,
          ← List.append_cons]
      obtain ⟨r, rest, hr⟩ := List.exists_cons_of_ne_nil hbefore
      rw [hr, List.cons_append, List.cons.injEq, List.append_eq_singleton_iff] at hparts
      obtain ⟨-, ⟨-, hs⟩ | ⟨-, hs⟩⟩ := hparts
      · rw [(List.cons.inj hs).1]
      · simp at hs

/-- **Joined documents.** Their statements are those of the first and then those of the second, and
a list of texts can be joined and taken apart again exactly when all of them can be statements.
Where objectives are replaced, two documents that are read are together read as both of them, with
the objective of the second. Where they are refused, the objective of the second is. -/
theorem joined_documents (first second : Text) :
    statements (first ++ ';' :: second) = statements first ++ statements second ∧
    (∀ pieces, statements ([';'].intercalate pieces) = pieces ↔ ∀ s ∈ pieces, IsStatement s) ∧
    (∀ s ∈ statements first, IsStatement s) ∧
    (∀ strict m n, read ⟨.replaces, strict⟩ first = .ok m →
      read ⟨.replaces, strict⟩ second = .ok n →
      read ⟨.replaces, strict⟩ (first ++ ';' :: second) =
        .ok ⟨m.declarations ++ n.declarations, m.constraints ++ n.constraints, n.objective⟩) ∧
    ∀ strict m n, read ⟨.refused, strict⟩ first = .ok m → read ⟨.refused, strict⟩ second = .ok n →
      ∃ s, ofKind .objective (statements second) = [s] ∧
        read ⟨.refused, strict⟩ (first ++ ';' :: second) =
          .error (Cause.repeatedObjective.inStatement s) :=
  ⟨statements_append_cons first second, fun _ => statements_intercalate_iff,
    fun _ => isStatement_of_mem, fun _ _ _ => read_append_cons_of_replaces rfl,
    fun _ _ _ => read_append_cons_of_refused rfl⟩

/-- A document that ends without a semicolon. -/
def firstHalf : Text := "var x; maximize f: 2*x; subject to c: x <= 1".toList

/-- A document with its objective between other statements. -/
def secondHalf : Text := "subject to d: y > 2; # note; minimize g: y; var y;".toList

theorem joined_documents_halves :
    (∃ m n, read ⟨.replaces, false⟩ firstHalf = .ok m ∧ read ⟨.replaces, false⟩ secondHalf = .ok n ∧
      read ⟨.replaces, false⟩ (firstHalf ++ ';' :: secondHalf) =
        .ok ⟨m.declarations ++ n.declarations, m.constraints ++ n.constraints, n.objective⟩) ∧
    ofKind .objective (statements secondHalf) = ["minimize g: y".toList] ∧
    read ⟨.refused, false⟩ (firstHalf ++ ';' :: secondHalf) =
      .error (Cause.repeatedObjective.inStatement "minimize g: y".toList) := by
  have hread (repeated : RepeatedObjective) (text : Text) (h : text ∈ [firstHalf, secondHalf]) :
      ∃ m, read ⟨repeated, false⟩ text = .ok m := by
    have hall : ∀ repeated ∈ [RepeatedObjective.replaces, .refused],
        ∀ text ∈ [firstHalf, secondHalf], ∃ m, read ⟨repeated, false⟩ text = .ok m :=
      of_decide_eq_true (by decide +kernel)
    exact hall repeated (by cases repeated <;> simp) text h
  obtain ⟨-, -, -, hreplaces, hrefused⟩ := joined_documents firstHalf secondHalf
  obtain ⟨m, hm⟩ := hread .replaces firstHalf (by simp)
  obtain ⟨n, hn⟩ := hread .replaces secondHalf (by simp)
  obtain ⟨m', hm'⟩ := hread .refused firstHalf (by simp)
  obtain ⟨n', hn'⟩ := hread .refused secondHalf (by simp)
  obtain ⟨s, hs, hfault⟩ := hrefused false m' n' hm' hn'
  have hobjective : ofKind .objective (statements secondHalf) = ["minimize g: y".toList] := by
    decide +kernel
  obtain rfl : s = "minimize g: y".toList := by simpa [hobjective] using hs.symm
  exact ⟨⟨m, n, hm, hn, hreplaces false m n hm hn⟩, hobjective, hfault⟩

end Document

end LinearProgram
