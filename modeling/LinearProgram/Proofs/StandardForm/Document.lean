import LinearProgram.Proofs.Notation.Order
import LinearProgram.Proofs.StandardForm.Calls
import LinearProgram.StandardForm.Assembly

/-!
# Feeding documents

A document is read to its end before an assembler is called. So a document that cannot be read leads
to no call at all, and all others lead to calls in the one order that assemblers are promised:
variables, constraints, the last objective, and the request to finish (`Document.AsksFor`).

**The calls of a document** (`Assembler.feedDocument_protocol`). They are made in this order up to
the first that fails, whose fault is the fault of the whole. This is said of every assembler, with
any state and any operations; the record of an observed assembler tells which calls it receives.

**The order of statements** (`Document.rearranged_feeds_alike`). Documents with rearranged
statements are read as the same model, so every assembler does the same with them.
-/

namespace LinearProgram

/-- The calls that the statements of a document ask for: what its declarations are read as, what its
constraints are read as, each in document order, and what its last objective is read as. -/
inductive Document.AsksFor (policy : Policy) (text : Text) : List (Call Number) → Prop
  | calls {declarations : List (Term Number)} {constraints : List (Constraint Number)}
      {objective : Objective Number} :
      (ofKind .declaration (statements text)).map Statement.readDeclaration =
        declarations.map .ok →
      (ofKind .constraint (statements text)).map
        (Statement.readConstraint policy.strictOperators) = constraints.map .ok →
      (ofKind .objective (statements text)).getLast?.map Statement.readObjective =
        some (.ok objective) →
      AsksFor policy text
        (declarations.map .declare ++ (constraints.map .require ++ [.target objective, .finish]))

/-- A document that is read asks for the calls of its model. -/
theorem Document.asksFor_calls {policy : Policy} {text : Text} {m : Model Number}
    (h : read policy text = .ok m) : AsksFor policy text m.calls := by
  have hgathers := exists_gathers_of_read h
  exact .calls hgathers.declarations hgathers.constraints hgathers.objective

namespace Assembler

variable {σ ε ρ : Type}

/-! ## The calls of a document -/

/-- What comes of a model, as what comes of its document. -/
def assembling : EStateM.Result ε σ ρ → EStateM.Result (Failure ε) σ ρ
  | .ok result final => .ok result final
  | .error fault final => .error (.assembling fault) final

section Reading

variable {policy : Policy} {text : Text}

theorem feedDocument_of_error (assembler : Assembler σ ε ρ Number) {fault : Fault}
    (h : Document.read policy text = .error fault) (s : σ) :
    assembler.feedDocument policy text s = .error (.reading fault) s := by
  simp only [feedDocument, h]

theorem feedDocument_of_ok (assembler : Assembler σ ε ρ Number) {m : Model Number}
    (h : Document.read policy text = .ok m) (s : σ) :
    assembler.feedDocument policy text s = assembling (assembler.feed m s) := by
  simp only [feedDocument, h]
  cases assembler.feed m s <;> rfl

/-- Observing changes nothing but the record, which is of the calls that are made. -/
theorem observed_feedDocument_of_ok (assembler : Assembler σ ε ρ Number) {m : Model Number}
    (h : Document.read policy text = .ok m) (log : List (Call Number)) (s : σ) :
    assembler.observed.feedDocument policy text (log, s) =
      noted (log ++ assembler.made s m.calls) (assembler.feedDocument policy text s) := by
  rw [feedDocument_of_ok _ h, feedDocument_of_ok _ h, observed_feed]
  cases assembler.feed m s <;> rfl

end Reading

/-- How an assembler serves calls: all of them, or all up to the first that fails. -/
inductive Serves (assembler : Assembler σ ε ρ Number) (s : σ) (calls : List (Call Number)) :
    List (Call Number) → EStateM.Result ε σ ρ → Prop
  | all {result : ρ} {final : σ} : assembler.performAll calls s = .ok [result] final →
      Serves assembler s calls calls (.ok result final)
  | upTo {before after : List (Call Number)} {call : Call Number} {results : List ρ} {fault : ε}
      {middle final : σ} : calls = before ++ call :: after →
      assembler.performAll before s = .ok results middle →
      assembler.perform call middle = .error fault final →
      Serves assembler s calls (before ++ [call]) (.error fault final)

/-- The calls of a model are served. -/
theorem serves_calls (assembler : Assembler σ ε ρ Number) (m : Model Number) (s : σ) :
    assembler.Serves s m.calls (assembler.made s m.calls) (assembler.feed m s) := by
  have hcalls := congrFun (assembler.performAll_calls m) s
  cases hfeed : assembler.feed m s with
  | ok result final =>
    rw [bind_eq_of_ok hfeed] at hcalls
    rw [made_of_ok hcalls]
    exact .all hcalls
  | error fault final =>
    rw [bind_eq_of_error hfeed] at hcalls
    obtain ⟨before, call, after, results, middle, hsplit, hbefore, hcall⟩ :=
      exists_failed_call hcalls
    rw [hsplit, made_append_of_error hbefore hcall]
    exact .upTo rfl hbefore hcall

/-- **The protocol of a document.** When it cannot be read, no call is made. Otherwise the calls
that it asks for are served, and the fault of a call that fails is that of the whole. -/
theorem feedDocument_protocol (assembler : Assembler σ ε ρ Number) (policy : Policy)
    (text : Text) (s : σ) :
    (∀ fault, Document.read policy text = .error fault →
      assembler.feedDocument policy text s = .error (.reading fault) s ∧
        assembler.observed.feedDocument policy text ([], s) = .error (.reading fault) ([], s)) ∧
    ∀ m, Document.read policy text = .ok m →
      Document.AsksFor policy text m.calls ∧
        ∃ visited result, assembler.Serves s m.calls visited result ∧
          assembler.feedDocument policy text s = assembling result ∧
          assembler.observed.feedDocument policy text ([], s) =
            noted visited (assembling result) := by
  refine ⟨fun fault h => ?_, fun m h => ⟨Document.asksFor_calls h, ?_⟩⟩
  · exact ⟨feedDocument_of_error _ h s, feedDocument_of_error _ h ([], s)⟩
  · refine ⟨assembler.made s m.calls, assembler.feed m s, assembler.serves_calls m s,
      feedDocument_of_ok _ h s, ?_⟩
    rw [observed_feedDocument_of_ok _ h, List.nil_append, feedDocument_of_ok _ h]

/-- Accepts as many calls as it has left, and fails at the next one. -/
def limited : Assembler Nat Unit Unit Number :=
  let call : EStateM Unit Nat Unit := fun left =>
    if left = 0 then .error () left else .ok () (left - 1)
  ⟨fun _ => call, fun _ => call, fun _ => call, call⟩

/-- Two objectives with declarations, a constraint and a comment between them. -/
def objectiveFirst : Text :=
  "maximize f: x; var x; subject to c: x <= 1; # note; var y; minimize g: y".toList

/-- The model of the document, in which only the last objective is left. -/
def objectiveFirstModel : Model Number where
  declarations := [⟨['x'], 0⟩, ⟨['y'], 0⟩]
  constraints := [⟨['c'], [⟨['x'], 1⟩], 1, .atMost⟩]
  objective := ⟨['g'], [⟨['y'], 1⟩], .minimize⟩

theorem feedDocument_protocol_objectiveFirst :
    Document.read {} objectiveFirst = .ok objectiveFirstModel ∧
      Document.AsksFor {} objectiveFirst objectiveFirstModel.calls ∧
        ∃ visited result, limited.Serves 3 objectiveFirstModel.calls visited result ∧
          limited.feedDocument {} objectiveFirst 3 = assembling result ∧
          limited.observed.feedDocument {} objectiveFirst ([], 3) =
            noted visited (assembling result) := by
  have hread : Document.read {} objectiveFirst = .ok objectiveFirstModel := by decide +kernel
  exact ⟨hread, (feedDocument_protocol limited {} objectiveFirst 3).2 _ hread⟩

/-- The fourth of the five calls fails, and the last one is not made. -/
example : limited.observed.feedDocument {} objectiveFirst ([], 3) =
    .error (.assembling ()) (objectiveFirstModel.calls.take 4, 0) := by
  have hread : Document.read {} objectiveFirst = .ok objectiveFirstModel := by decide +kernel
  rw [observed_feedDocument_of_ok _ hread, feedDocument_of_ok _ hread]
  rfl

end Assembler

/-! ## The program of a document -/

namespace Document

section Program

variable {policy : Policy} {text : Text}

theorem program_of_error {fault : Fault} (h : read policy text = .error fault) :
    program policy text = .error (.reading fault) := by
  rw [program, Assembler.feedDocument_of_error _ h]

theorem program_of_ok {m : Model Number} (h : read policy text = .ok m) :
    program policy text = m.program.mapError .assembling := by
  rw [program, Assembler.feedDocument_of_ok _ h, Model.program]
  cases Assembly.assembler.feed m {} <;> rfl

end Program

/-! ## The order of statements -/

/-- **Rearranged documents.** They are read as the same models, and every assembler does the same
with them; so their programs are the same, or cannot be made for the same reason. -/
theorem rearranged_feeds_alike (policy : Policy) {text other : Text}
    (h : Rearranged (statements text) (statements other)) :
    (∀ m, read policy text = .ok m ↔ read policy other = .ok m) ∧
      ∀ m, read policy text = .ok m → program policy text = program policy other ∧
        ∀ {σ ε ρ : Type} (assembler : Assembler σ ε ρ Number),
          assembler.feedDocument policy text = assembler.feedDocument policy other := by
  have hread {m : Model Number} : read policy text = .ok m ↔ read policy other = .ok m :=
    h.read_eq_ok_iff
  refine ⟨fun m => hread, fun m hm => ?_⟩
  have hfeed {σ ε ρ : Type} (assembler : Assembler σ ε ρ Number) :
      assembler.feedDocument policy text = assembler.feedDocument policy other := by
    funext s
    rw [assembler.feedDocument_of_ok hm, assembler.feedDocument_of_ok (hread.1 hm)]
  exact ⟨by rw [program, program, hfeed], hfeed⟩

/-- A document whose objective uses a variable that is not declared. -/
def undeclaredInOrder : Text :=
  "var x; var y; maximize f: z; subject to c: x <= 1; subject to d: y >= 2; # all".toList

/-- The same statements in another order, with another comment. -/
def undeclaredMixed : Text :=
  "subject to c: x <= 1; var x; # maximize g: x; maximize f: z; subject to d: y >= 2; var y".toList

theorem rearranged_feeds_alike_undeclared :
    Rearranged (statements undeclaredInOrder) (statements undeclaredMixed) ∧
      ∃ m, read ⟨.refused, true⟩ undeclaredInOrder = .ok m ∧
        read ⟨.refused, true⟩ undeclaredMixed = .ok m ∧
        program ⟨.refused, true⟩ undeclaredInOrder = program ⟨.refused, true⟩ undeclaredMixed := by
  have horder : ∀ kind ∈ [Statement.Kind.declaration, .objective, .constraint],
      ofKind kind (statements undeclaredInOrder) = ofKind kind (statements undeclaredMixed) := by
    decide +kernel
  have h : Rearranged (statements undeclaredInOrder) (statements undeclaredMixed) :=
    ⟨by decide +kernel, fun kind hkind => horder kind (by cases kind <;> simp_all)⟩
  have hread : ∃ m, read ⟨.refused, true⟩ undeclaredInOrder = .ok m :=
    of_decide_eq_true (by decide +kernel)
  obtain ⟨hsame, hfeeds⟩ := rearranged_feeds_alike ⟨.refused, true⟩ h
  obtain ⟨m, hm⟩ := hread
  exact ⟨h, m, hm, (hsame m).1 hm, (hfeeds m hm).1⟩

example : program ⟨.refused, true⟩ undeclaredInOrder =
    .error (.assembling (.undeclared (.objective ['f']) ['z'])) := by decide +kernel

end Document

end LinearProgram
