import Formula.Proofs.Expr.Results
import Formula.Proofs.Grammar.Origin
import Formula.Proofs.Session.History
import Formula.Proofs.Session.Pending
import Formula.Proofs.Token.Lexemes

/-!
# What a session evaluates

Of all that a session is asked for, only statements that were evaluated show in its values: each
was read from tokens, and each was evaluated under the bindings that the ones before it left. This
module tells the statements from the requests and the replies. What is proved of all values of a
session is then proved by going through the statements.
-/

namespace Formula

/-- The outcome that a reply reports. -/
def Reply.outcome? : Reply → Option Outcome
  | .ran (.ok (some outcome)) => some outcome
  | .fed (.ok (.done outcome)) => some outcome
  | _ => none

/-- The assignment in a reply is that of its outcome, if it has one. -/
theorem Reply.assignment?_eq (reply : Reply) :
    reply.assignment? = reply.outcome?.bind Outcome.assignment? := by
  rcases reply with (error | _ | outcome) | (error | response) | _
  · rfl
  · rfl
  · rfl
  · rfl
  · cases response <;> rfl
  · rfl

/-- A response reports the same outcome as the run that it responds with. -/
theorem Reply.outcome?_respond (result : Except StatementError (Option Outcome)) :
    (fed (Memory.respond result)).outcome? = (ran result).outcome? := by
  rcases result with error | _ | outcome <;> rfl

/-- The line that is fed. -/
def Request.line? : Request → Option String
  | .feed line => some line
  | _ => none

/-- A statement has the value of its expression, and binds it if it is an assignment. Evaluation is
taken apart into its steps. -/
theorem Statement.eval_eq_ok {bindings after : Bindings} {statement : Statement} {outcome : Outcome}
    (evaluated : statement.eval bindings = .ok (outcome, after)) :
    statement.expr.eval bindings = .ok outcome.result ∧
      after = bindings.assign outcome.assignment? := by
  cases statement with
  | assignment name expr =>
    obtain ⟨value, ofExpr, isOutcome⟩ := bind_eq_ok_iff.mp evaluated
    cases isOutcome
    exact ⟨ofExpr, rfl⟩
  | expression expr =>
    obtain ⟨value, ofExpr, isOutcome⟩ := bind_eq_ok_iff.mp evaluated
    cases isOutcome
    exact ⟨ofExpr, rfl⟩

/-- A statement fails with the error of its expression, as nothing else in it can fail. -/
theorem Statement.eval_eq_error {bindings : Bindings} {statement : Statement} {error : EvalError}
    (failed : statement.eval bindings = .error error) :
    statement.expr.eval bindings = .error error := by
  cases statement with
  | assignment name expr =>
    obtain failed | ⟨value, -, impossible⟩ := bind_eq_error_iff.mp failed
    · exact failed
    · cases impossible
  | expression expr =>
    obtain failed | ⟨value, -, impossible⟩ := bind_eq_error_iff.mp failed
    · exact failed
    · cases impossible

/-- A statement read from tokens that are all allowed, with what comes of it under some bindings. -/
structure Evaluation (allowed : Token → Prop) (before : Bindings) (outcome : Outcome) : Prop where
  exists_statement : ∃ tokens statement, (∀ token ∈ tokens, allowed token) ∧
    Statement.ofTokens tokens = .ok statement ∧
    statement.eval before = .ok (outcome, before.assign outcome.assignment?)

/-- Statements evaluated one after another. -/
inductive Evaluations (allowed : Token → Prop) : Bindings → List Outcome → Bindings → Prop
  | none (bindings : Bindings) : Evaluations allowed bindings [] bindings
  | more (before : Bindings) (outcome : Outcome) (outcomes : List Outcome) (last : Bindings)
      (first : Evaluation allowed before outcome)
      (others : Evaluations allowed (before.assign outcome.assignment?) outcomes last) :
      Evaluations allowed before (outcome :: outcomes) last

/-- An evaluation of tokens of one kind is one of tokens of a wider kind. -/
theorem Evaluation.mono {allowed wider : Token → Prop} {before : Bindings} {outcome : Outcome}
    (wide : ∀ token, allowed token → wider token) (evaluation : Evaluation allowed before outcome) :
    Evaluation wider before outcome := by
  obtain ⟨tokens, statement, each, read, evaluated⟩ := evaluation.exists_statement
  exact ⟨tokens, statement, fun token member => wide token (each token member), read, evaluated⟩

/-- So are evaluations one after another, by induction on them. -/
theorem Evaluations.mono {allowed wider : Token → Prop} {before last : Bindings}
    {outcomes : List Outcome} (wide : ∀ token, allowed token → wider token)
    (evaluations : Evaluations allowed before outcomes last) :
    Evaluations wider before outcomes last := by
  induction evaluations with
  | none bindings => exact .none bindings
  | more before outcome outcomes last first others ih =>
    exact .more before outcome outcomes last (first.mono wide) ih

namespace Session

variable {session : Session} {lines : List String} {outcome : Outcome}

/-- A token that stands by itself, and is on one line if this is so of all lines that were fed. -/
def Fed (lines : List String) (token : Token) : Prop :=
  token.word.Stands ∧ ('\n' ∈ token.lexeme.toList → ∃ line ∈ lines, '\n' ∈ line.toList)

/-- A token of some lines is a token of more lines. -/
theorem Fed.mono {wider : List String} (within : lines ⊆ wider) {token : Token}
    (fed : Fed lines token) : Fed wider token := by
  refine ⟨fed.1, fun feed => ?_⟩
  obtain ⟨line, isLine, inLine⟩ := fed.2 feed
  exact ⟨line, within isLine, inLine⟩

/-- The outcome of running tokens is that of the statement that they are read as, under the bindings
of the session. -/
theorem evaluation_of_execute {allowed : Token → Prop} {tokens : List Token}
    (each : ∀ token ∈ tokens, allowed token)
    (reported : (Reply.ran (session.execute tokens).1).outcome? = some outcome) :
    Evaluation allowed session.bindings outcome := by
  unfold execute at reported
  split at reported
  · cases reported
  · split at reported
    · cases reported
    · next statement read =>
      cases evaluated : statement.eval session.bindings with
      | error error =>
        rw [evaluated] at reported
        cases reported
      | ok result =>
        obtain ⟨found, after⟩ := result
        rw [evaluated] at reported
        obtain rfl : found = outcome := Option.some.inj reported
        obtain ⟨-, rfl⟩ := Statement.eval_eq_ok evaluated
        exact ⟨tokens, statement, each, read, evaluated⟩

/-- So is the outcome of running a text. Its tokens stand by themselves, and none of them has a line
feed in it, since it is in a line of the text. -/
theorem evaluation_of_run {text : String}
    (reported : (Reply.ran (session.run text).1).outcome? = some outcome) :
    Evaluation (Fed lines) session.bindings outcome := by
  unfold run at reported
  split at reported
  · cases reported
  · next tokens read =>
    refine evaluation_of_execute (fun token member => ?_) reported
    obtain ⟨stands, noFeed⟩ := Token.stands_of_ofText read token member
    exact ⟨stands, fun feed => absurd feed noFeed⟩

/-- So is the outcome of going on with what was read. Only what is complete has an outcome. -/
theorem evaluation_of_proceed {reading : Reading}
    (each : ∀ tokens, reading = .complete tokens → ∀ token ∈ tokens, Fed lines token)
    (reported : (Reply.fed (session.proceed reading).1).outcome? = some outcome) :
    Evaluation (Fed lines) session.bindings outcome := by
  cases reading with
  | unfinished draft => cases reported
  | faulty error => cases reported
  | complete tokens =>
    rw [proceed_complete, Reply.outcome?_respond] at reported
    have evaluated : Evaluation (Fed lines) session.reset.bindings outcome :=
      evaluation_of_execute (each tokens rfl) reported
    exact evaluated

/-- The tokens of a draft are tokens of the lines that were read into it: each stands by itself, and
its characters are some of one line. -/
theorem fed_of_ofDraft (clean : (Draft.empty.readLines lines).2 = none) {tokens : List Token}
    (complete : Reading.ofDraft (Draft.empty.readLines lines).1 = .complete tokens) :
    ∀ token ∈ tokens, Fed lines token := by
  unfold Reading.ofDraft at complete
  split at complete
  · next found finished =>
    obtain rfl := Reading.complete.inj complete
    intro token member
    obtain ⟨stands, line, isLine, within⟩ := Draft.stands_of_finish clean finished token member
    exact ⟨stands, fun feed => ⟨line, isLine, within feed⟩⟩
  · cases complete

/-- An outcome comes from the lines of the statement that has been begun and the line that is fed,
or else from a text. By cases on the request; a draft that is complete holds the tokens of these
lines. -/
theorem Begun.evaluation_of_answer (begun : session.Begun lines) (request : Request)
    (reported : (session.answer request).1.outcome? = some outcome) :
    Evaluation (Fed (lines ++ request.line?.toList)) session.bindings outcome := by
  cases request with
  | run text => exact evaluation_of_run reported
  | feed line =>
    refine evaluation_of_proceed ?_ reported
    intro tokens complete
    rw [begun.readLine_eq] at complete
    rcases found : Draft.empty.readLines (lines ++ [line]) with ⟨draft, _ | error⟩ <;>
      rw [found] at complete
    · dsimp only at complete
      split at complete
      · cases complete
      · have clean : (Draft.empty.readLines (lines ++ [line])).2 = none := by rw [found]
        rw [show draft = (Draft.empty.readLines (lines ++ [line])).1 by rw [found]] at complete
        exact fed_of_ofDraft clean complete
    · cases complete
  | finish =>
    refine evaluation_of_proceed ?_ reported
    intro tokens complete
    rw [readEnd, begun.draft] at complete
    by_cases nothing : lines = []
    · rw [if_pos nothing] at complete
      obtain rfl := Reading.complete.inj complete
      exact List.forall_mem_nil _
    · rw [if_neg nothing] at complete
      simpa [Request.line?] using fed_of_ofDraft begun.clean complete
  | reset => cases reported

/-- The lines that have been begun after a request are from before it or are the line that it has
fed. -/
theorem linesAfter_subset (request : Request) (reply : Reply) :
    linesAfter lines (request, reply) ⊆ lines ++ request.line?.toList := by
  unfold linesAfter
  split
  · exact List.subset_append_left lines _
  · next line same =>
    obtain rfl : request = .feed line := congrArg Prod.fst same
    exact List.Subset.refl _
  · exact List.nil_subset _

/-- The outcomes that are reported are those of statements evaluated one after another, and the
bindings are those that these statements leave. By induction on the requests, with the lines that
have been begun as they change from request to request. -/
theorem Begun.evaluations (begun : session.Begun lines) (requests : List Request) :
    Evaluations (Fed (lines ++ requests.filterMap Request.line?)) session.bindings
      ((session.answers requests).1.filterMap Reply.outcome?)
      (session.answers requests).2.bindings := by
  induction requests generalizing session lines with
  | nil => exact .none session.bindings
  | cons request later ih =>
    have inAll : (request :: later).filterMap Request.line? =
        request.line?.toList ++ later.filterMap Request.line? := by
      cases fed : request.line? <;> simp [fed]
    have now : lines ++ request.line?.toList ⊆
        lines ++ (request :: later).filterMap Request.line? := by
      rw [inAll, ← List.append_assoc]
      exact List.subset_append_left _ _
    have still : linesAfter lines (request, (session.answer request).1) ++
        later.filterMap Request.line? ⊆ lines ++ (request :: later).filterMap Request.line? := by
      rw [inAll, ← List.append_assoc]
      exact List.append_subset.mpr
        ⟨List.subset_append_of_subset_left _ (linesAfter_subset request _),
          List.subset_append_right _ _⟩
    have others := (ih (begun.answer request)).mono fun token => Fed.mono still
    rw [answer_bindings, Reply.assignment?_eq] at others
    rw [Session.answers]
    cases reported : (session.answer request).1.outcome? with
    | none =>
      rw [reported] at others
      rw [List.filterMap_cons_none reported]
      exact others
    | some outcome =>
      rw [reported] at others
      rw [List.filterMap_cons_some reported]
      have first := (begun.evaluation_of_answer request reported).mono fun token => Fed.mono now
      exact .more _ _ _ _ first others

end Session

namespace Value.Graded

variable {property : Nat → Value → Prop} {allowed : Token → Prop} {before last : Bindings}
variable {outcome : Outcome} {outcomes : List Outcome} {level : Nat}

/-- One statement raises the level by as much as brackets may nest. Its literals are those of its
tokens, and its tree nests no deeper than that. -/
theorem evaluation (graded : Graded property)
    (literals : ∀ token, allowed token → ∀ value, token.value? = some value → property level value)
    (bound : ∀ name value, before.get? name = some value → property level value)
    (evaluation : Evaluation allowed before outcome) :
    property (level + maxNesting) outcome.result := by
  obtain ⟨tokens, statement, each, read, evaluated⟩ := evaluation.exists_statement
  have denoted : ∀ value span, .literal value span ∈ statement.expr.parts →
      property level value := by
    intro value span part
    cases Statement.readFrom_of_ofTokens read _ part with
    | literal token value member denotes => exact literals token (each token member) value denotes
  have result := graded.eval bound statement.expr denoted (Statement.eval_eq_ok evaluated).1
  exact graded.mono (Nat.add_le_add_left (Statement.depth_le_of_ofTokens read) level) result

/-- So it raises the level of what is bound: the value that is assigned has it, and what was bound
before keeps its own. -/
theorem assign (graded : Graded property)
    (bound : ∀ name value, before.get? name = some value → property level value)
    (result : property (level + maxNesting) outcome.result) :
    ∀ name value, (before.assign outcome.assignment?).get? name = some value →
      property (level + maxNesting) value := by
  intro asked value found
  have unchanged (earlier : before.get? asked = some value) : property (level + maxNesting) value :=
    graded.mono (Nat.le_add_right level maxNesting) (bound asked value earlier)
  cases outcome with
  | value shown => exact unchanged found
  | assigned name given =>
    have found : (before.set name given).get? asked = some value := found
    rw [Bindings.get?_set] at found
    split at found
    · obtain rfl := Option.some.inj found
      exact result
    · exact unchanged found

/-- The results of statements evaluated one after another, and all that is bound after them, have
the property at the level that as many statements lead to. By induction on the evaluations, each
beginning at the level that those before have led to. -/
theorem evaluations (graded : Graded property)
    (literals : ∀ token, allowed token → ∀ value, token.value? = some value → property level value)
    (bound : ∀ name value, before.get? name = some value → property level value)
    (evaluations : Evaluations allowed before outcomes last) :
    (∀ outcome ∈ outcomes, property (level + maxNesting * outcomes.length) outcome.result) ∧
      ∀ name value, last.get? name = some value →
        property (level + maxNesting * outcomes.length) value := by
  induction evaluations generalizing level with
  | none bindings => exact ⟨List.forall_mem_nil _, bound⟩
  | more before outcome outcomes last first others ih =>
    have result := graded.evaluation literals bound first
    have raised := Nat.le_add_right level maxNesting
    obtain ⟨results, bound'⟩ := ih
      (fun token isAllowed value denotes =>
        graded.mono raised (literals token isAllowed value denotes))
      (graded.assign bound result)
    have steps : level + maxNesting + maxNesting * outcomes.length =
        level + maxNesting * (outcome :: outcomes).length := by
      rw [List.length_cons, Nat.mul_succ, Nat.add_assoc, Nat.add_comm maxNesting]
    rw [steps] at results bound'
    refine ⟨List.forall_mem_cons.mpr ⟨?_, results⟩, bound'⟩
    exact graded.mono (steps ▸ Nat.le_add_right _ _) result

end Value.Graded

end Formula
