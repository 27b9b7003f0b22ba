import ColumnChain.Proofs.Commitment
import ColumnChain.Proofs.Naming
import ColumnChain.Proofs.Planning

/-!
# Tags of records

Three parts of the program look for the function of an expression text. The rule against
duplicates and the tag of a record go by the name that the text starts with, a pipeline by
the expression that the text reads as. Where it reads as a call or a name, they see one
function: what a step can call is in the catalogue under the name that the rule compares, and
it has the category that the record is tagged with. Where it reads as neither, the step calls
nothing, whatever name the text starts with.

A record is tagged once, when it is proposed. All that is done to it later leaves its text and
its tag alone.
-/

namespace ColumnChain

/-! ## Texts -/

namespace Expression

/-- Whether an expression is neither a call nor a name. -/
def isOpaque : Expression → Bool
  | .call _ => false
  | .bare _ => false
  | .opaqueText _ => true

theorem structured?_of_read {text : String} (structured : (read text).isOpaque = false) :
    structured? text.toList = some (read text) := by
  cases found : structured? text.toList with
  | none =>
      rw [read, found, Option.getD_none] at structured
      cases structured
  | some expression => rw [read, found, Option.getD_some]

theorem leadingName?_read {text : String} (structured : (read text).isOpaque = false) :
    leadingName? text = (read text).functionName? :=
  leadingName?_of_structured? (structured?_of_read structured)

theorem callee?_read {text : String} (structured : (read text).isOpaque = false) :
    (read text).callee? = (leadingName? text).bind Catalog.find? :=
  callee?_of_structured? (structured?_of_read structured)

/-- The category of a text is that of the function it may call, or that of choices where there
is none. -/
theorem category_ofExpression {text : String} (structured : (read text).isOpaque = false) :
    Category.ofExpression text = ((read text).callee?.map Entry.category).getD .choice := by
  rw [callee?_read structured, Category.ofExpression]

end Expression

/-! ## Steps -/

namespace Step

/-- A step can call a function: its plan does, in the chain of some column over some rows. -/
def MayCall (step : Step) (entry : Entry) : Prop :=
  ∃ column rows, (step.plan column rows).callee? = some entry

theorem mayCall_iff {step : Step} {entry : Entry} :
    step.MayCall entry ↔ step.expression.callee? = some entry := by
  constructor
  · rintro ⟨column, rows, calls⟩
    exact Plan.expression_callee?_of_callee? calls
  · intro callee
    obtain ⟨expression, output⟩ := step
    cases expression with
    | call invocation =>
        rw [Expression.callee?] at callee
        refine ⟨"", [], ?_⟩
        simp only [plan, Plan.ofExpression, callee]
        rfl
    | bare name =>
        -- A bare name is called where it is neither the column of the chain nor another one.
        rw [Expression.callee?] at callee
        have different : name ≠ name.push 'x' := by
          intro same
          have longer := congrArg String.length same
          rw [String.length_push] at longer
          omega
        refine ⟨name.push 'x', [], ?_⟩
        simp only [plan, Plan.ofExpression, if_neg different, callee]
        rfl
    | opaqueText text => cases callee

end Step

/-- A step whose text is neither a call nor a name changes no row. -/
theorem Engine.applyStep_of_isOpaque (engine : Engine) (draws : Draws) (column : String)
    {step : Step} (isOpaque : step.expression.isOpaque = true) (rows : List Row) :
    engine.applyStep draws column step rows = rows := by
  obtain ⟨expression, output⟩ := step
  cases expression with
  | call invocation => cases isOpaque
  | bare name => cases isOpaque
  | opaqueText text => rfl

/-! ## Records -/

namespace Transformation

variable {t later earlier : Transformation}

/-- The tag of a record is the category of its text. -/
def IsTagged (t : Transformation) : Prop :=
  t.category = Category.ofExpression t.expression

theorem Revises.isTagged_iff (revises : later.Revises earlier) :
    later.IsTagged ↔ earlier.IsTagged := by
  rw [revises]
  exact Iff.rfl

/-- The rule against duplicates, the tag and the step of a record are about one function. -/
structure IsAboutOneFunction (t : Transformation) : Prop where
  /-- The name that the rule compares is the name of the expression. -/
  name : t.functionName? = t.step.expression.functionName?
  /-- The step can call the function with this name, and no other. -/
  callee : ∀ entry, t.step.MayCall entry ↔ t.functionName?.bind Catalog.find? = some entry
  /-- The tag is the category of the function that the step can call. -/
  category : ∀ entry, t.step.MayCall entry → t.category = entry.category
  /-- A record whose step can call nothing has the tag of choices. -/
  without : (∀ entry, ¬ t.step.MayCall entry) → t.category = .choice

theorem IsTagged.isAboutOneFunction (tagged : t.IsTagged)
    (structured : (Expression.read t.expression).isOpaque = false) : t.IsAboutOneFunction := by
  have category : t.category = (t.step.expression.callee?.map Entry.category).getD .choice :=
    tagged.trans (Expression.category_ofExpression structured)
  refine ⟨Expression.leadingName?_read structured, fun entry => ?_, fun entry mayCall => ?_,
    fun nothing => ?_⟩
  · rw [functionName?, ← Expression.callee?_read structured]
    exact Step.mayCall_iff
  · rw [category, Step.mayCall_iff.1 mayCall, Option.map_some, Option.getD_some]
  · have absent : t.step.expression.callee? = none :=
      Option.eq_none_iff_forall_ne_some.2 fun entry callee =>
        nothing entry (Step.mayCall_iff.2 callee)
    rw [category, absent, Option.map_none, Option.getD_none]

end Transformation

/-! ## Stores -/

namespace Store

variable {store start : Store} {t : Transformation}

/-- Where a record comes from that is in a store after a call. -/
inductive Origin (store : Store) (t : Transformation) : Prop where
  /-- It was proposed. -/
  | proposed (proposal : Proposal) (id : String) (sequence : UInt32) (now : Instant)
      (equal : t = propose proposal id sequence now)
  /-- It is a form of a record that was there. -/
  | kept (earlier : Transformation) (member : earlier ∈ store.entries)
      (revises : t.Revises earlier)

/-- Every record of the later store comes from a proposal or from the store. -/
def Descends (store later : Store) : Prop :=
  ∀ t ∈ later.entries, store.Origin t

namespace Descends

theorem of_subset {later : Store} (kept : ∀ t ∈ later.entries, t ∈ store.entries) :
    store.Descends later :=
  fun t member => .kept t (kept t member) (.refl t)

theorem refl (store : Store) : store.Descends store :=
  of_subset fun _ member => member

theorem put (origin : store.Origin t) : store.Descends (store.put t) := by
  intro other member
  rcases Keyed.mem_put.1 member with rfl | ⟨old, -⟩
  · exact origin
  · exact .kept other old (.refl other)

/-- After a call every record comes from a proposal or from a record that was there. -/
theorem perform (store : Store) (call : Operation) : store.Descends (call.perform store) := by
  cases call with
  | create proposal id now =>
      refine snd_checked (refl store) fun t accepted => put ?_
      obtain ⟨-, sequence, -, equal, -⟩ := admitted_eq_ok.1 accepted
      exact .proposed proposal id sequence now equal
  | reorder dataset column ids now =>
      rw [Operation.perform]
      rcases store.snd_reorder_cases dataset column ids now with
        same | ⟨ordered, complete, equal⟩
      · rw [same]
        exact refl store
      · rw [equal]
        intro t member
        obtain ⟨earlier, stored, -, revises⟩ := exists_origin_of_mem_withOrder complete member
        exact .kept earlier stored revises
  | update id change now =>
      refine snd_checked (refl store) fun t found => ?_
      split
      next => exact refl store
      next =>
        refine snd_checked (refl store) fun result accepted => put ?_
        obtain ⟨sequence, -, rfl⟩ := changed_eq_ok.1 accepted
        exact .kept t (require_eq_ok.1 found).1 rfl
  | delete id mode now =>
      refine snd_checked (refl store) fun t found => ?_
      cases mode with
      | soft => exact put (.kept t (require_eq_ok.1 found).1 rfl)
      | hard => exact of_subset fun other member => (Keyed.mem_erase.1 member).1
  | cleanup dataset => exact of_subset fun _ member => Keyed.mem_of_mem_foldl_erase member

end Descends

/-- Along a run every record is tagged, but for forms of records that were there at the start
without being so. -/
theorem isTagged_or_of_mem_history {calls : List Operation} :
    ∀ reached ∈ start.history calls, ∀ t ∈ reached.entries,
      t.IsTagged ∨ ∃ earlier ∈ start.entries, ¬ earlier.IsTagged ∧ t.Revises earlier := by
  refine forall_mem_history
    (fun reached => ∀ t ∈ reached.entries,
      t.IsTagged ∨ ∃ earlier ∈ start.entries, ¬ earlier.IsTagged ∧ t.Revises earlier) ?_ ?_
  · intro store call before t member
    cases Descends.perform store call t member with
    | proposed proposal id sequence now equal =>
        rw [equal]
        exact Or.inl rfl
    | kept earlier stored revises =>
        rw [revises.isTagged_iff]
        exact (before earlier stored).imp_right fun ⟨first, inStart, untagged, same⟩ =>
          ⟨first, inStart, untagged, revises.trans same⟩
  · intro t member
    exact (em t.IsTagged).imp_right fun untagged => ⟨t, member, untagged, .refl t⟩

/-- A text that reads as a call or a name starts with the name of what is read, and whatever
calls are made, every record with the text is about one function, unless it was wrongly tagged
before the first of them. A text that reads as neither leaves all rows as they are. -/
theorem isAboutOneFunction_or_isOpaque (text : String) :
    ((Expression.read text).isOpaque = false →
      Expression.leadingName? text = (Expression.read text).functionName? ∧
        ∀ (start : Store) (calls : List Operation), ∀ reached ∈ start.history calls,
          ∀ t ∈ reached.entries, t.expression = text → t.IsAboutOneFunction ∨
            ∃ earlier ∈ start.entries, ¬ earlier.IsTagged ∧ t.Revises earlier) ∧
      ((Expression.read text).isOpaque = true →
        ∀ (engine : Engine) (draws : Draws) (column : String) (output : Output)
          (rows : List Row),
          engine.applyStep draws column (Step.read text output) rows = rows) := by
  constructor
  · intro structured
    refine ⟨Expression.leadingName?_read structured, ?_⟩
    rintro start calls reached onTheWay t member rfl
    exact (isTagged_or_of_mem_history reached onTheWay t member).imp_left fun tagged =>
      tagged.isAboutOneFunction structured
  · intro isOpaque engine draws column output rows
    exact engine.applyStep_of_isOpaque draws column isOpaque rows

/-- The record of the sample proposal is about one function when it has been created. A text
that starts like a call and does not end calls nothing. -/
theorem isAboutOneFunction_sampleCreated :
    (Expression.read sampleProposal.expression).isOpaque = false ∧
      sampleCreated.IsAboutOneFunction ∧
      (Expression.read "UPPERCASE(").isOpaque = true ∧
      ((Expression.leadingName? "UPPERCASE(").bind Catalog.find?).isSome = true ∧
      ∀ (engine : Engine) (draws : Draws) (column : String) (output : Output)
        (rows : List Row),
        engine.applyStep draws column (Step.read "UPPERCASE(" output) rows = rows := by
  have structured : (Expression.read sampleProposal.expression).isOpaque = false := by decide
  have isOpaque : (Expression.read "UPPERCASE(").isOpaque = true := by decide
  have created : (Operation.create sampleProposal "e" default).perform sampleStore =
      sampleStore.put sampleCreated := congrArg Prod.snd create_sampleProposal
  have onTheWay : sampleStore.put sampleCreated ∈
      sampleStore.history [.create sampleProposal "e" default] := by
    simp [history, created]
  have member : sampleCreated ∈ (sampleStore.put sampleCreated).entries :=
    Keyed.mem_put.2 (Or.inl rfl)
  have tagged : ∀ earlier ∈ sampleStore.entries, earlier.IsTagged := by
    simp [sampleStore, sampleRecord, Transformation.IsTagged]
  refine ⟨structured, ?_, isOpaque, by decide, ?_⟩
  · have oneOrUntagged := ((isAboutOneFunction_or_isOpaque sampleProposal.expression).1
      structured).2 sampleStore _ _ onTheWay sampleCreated member rfl
    rcases oneOrUntagged with one | ⟨earlier, stored, untagged, -⟩
    · exact one
    · exact absurd (tagged earlier stored) untagged
  · exact (isAboutOneFunction_or_isOpaque "UPPERCASE(").2 isOpaque

end Store
end ColumnChain
