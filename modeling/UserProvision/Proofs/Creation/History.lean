import UserProvision.Proofs.Invocation.Agreement

/-!
# Any history of a creation

Requests are built, and replies and errors handled, in any order and any number. All that a creation
keeps of its history is the strategy of the last request that could be built.

## Main definitions

* `Creation.Step`, `Creation.Answer` — one use of a creation and what it answers.
* `Creation.lastSelected` — the strategy of the last request that could be built.

## Main results

* `Creation.afterAll_eq` — what is left of a history.
* `Creation.answers_sameButId` — creations with the same strategy answer alike.
* `strategy_follows_last_build` — the strategy over any history.
-/

namespace UserProvision

namespace Creation

/-- One use of a creation. -/
inductive Step where
  /-- A request is built for a server; the identifier is that of the user's document. -/
  | build (id : ObjectId) (d : Description)
  | reply (reply : RawDocument)
  | fault (e : Error)

/-- What a use answers. -/
inductive Answer where
  /-- The event for the choice of a strategy, and the request or why there is none. -/
  | built (selection : Event) (request : Except Error Request)
  | handled (outcome : Except Error Event)

/-- What one use answers. -/
def answer (c : Creation) : Step → Answer
  | .build id d => .built (c.selection d) (c.request id d)
  | .reply reply => .handled (c.handleReply reply)
  | .fault e => .handled (c.handleFault e)

/-- The creation after one use. -/
def after (c : Creation) : Step → Creation
  | .build id d => c.afterBuild id d
  | .reply _ | .fault _ => c

/-- The creation after some uses. -/
def afterAll (c : Creation) (steps : List Step) : Creation := steps.foldl after c

/-- What some uses answer, one after the other. -/
def answers (c : Creation) : List Step → List Answer
  | [] => []
  | step :: steps => c.answer step :: (c.after step).answers steps

/-- The strategy that a use selects: only a build that succeeds selects one. -/
def selected (u : NewUser) : Step → Option Strategy
  | .build id d =>
    match (Strategy.forServer d).request u id d with
    | .ok _ => some (Strategy.forServer d)
    | .error _ => none
  | .reply _ | .fault _ => none

/-- The strategy of the last request that could be built. -/
def lastSelected (u : NewUser) (steps : List Step) : Option Strategy :=
  (steps.filterMap (selected u)).getLast?

/-! ## What is left of a history -/

theorem afterBuild_of_error {c : Creation} {id : ObjectId} {d : Description} {e : Error}
    (h : c.request id d = .error e) : c.afterBuild id d = c := by
  rw [afterBuild, h]

theorem afterBuild_of_ok {c : Creation} {id : ObjectId} {d : Description} {request : Request}
    (h : c.request id d = .ok request) :
    c.afterBuild id d = ⟨c.user, some (Strategy.forServer d)⟩ := by
  rw [afterBuild, h]

/-- One use keeps the user, and the strategy too unless it selects one. -/
theorem after_eq (c : Creation) (step : Step) :
    c.after step = ⟨c.user, (selected c.user step).or c.strategy⟩ := by
  cases step with
  | build id d =>
    rw [after, selected, ← request]
    cases built : c.request id d with
    | ok request => exact afterBuild_of_ok built
    | error e => exact afterBuild_of_error built
  | reply reply | fault e => rfl

/-- All that is left of a history is the strategy of the last request that could be built. -/
theorem afterAll_eq (c : Creation) (steps : List Step) :
    c.afterAll steps = ⟨c.user, (lastSelected c.user steps).or c.strategy⟩ := by
  induction steps generalizing c with
  | nil => rfl
  | cons step steps ih =>
    rw [afterAll, List.foldl_cons, ← afterAll, ih, after_eq, lastSelected, lastSelected,
      List.filterMap_cons]
    cases selected c.user step with
    | none => rfl
    | some s =>
      rw [List.getLast?_cons]
      cases (steps.filterMap (selected c.user)).getLast? <;> rfl

/-- Servers that tell a wire version of at least two are sent the command, all others the insert. -/
theorem forServer_eq (d : Description) :
    Strategy.forServer d = if 2 ≤ d.maxWireVersion.getD 0 then .command else .insert := by
  rw [Strategy.forServer, Description.hasUserCommands, Description.userCommandsWireVersion]
  by_cases commands : 2 ≤ d.maxWireVersion.getD 0
  · rw [if_pos (decide_eq_true commands), if_pos commands]
  · rw [if_neg (by simpa using commands), if_neg commands]

theorem request_eq (c : Creation) (id : ObjectId) (d : Description) :
    c.request id d = if 2 ≤ d.maxWireVersion.getD 0 then c.user.command.map .command
      else (c.user.insert id d.maxDocumentSize).map .insert := by
  rw [request, forServer_eq]
  split <;> rfl

/-! ## Histories that answer alike -/

/-- The same use but for the identifier of the user's document. -/
inductive Step.SameButId : Step → Step → Prop
  | build (id id' : ObjectId) (d : Description) : SameButId (.build id d) (.build id' d)
  | reply (reply : RawDocument) : SameButId (.reply reply) (.reply reply)
  | fault (e : Error) : SameButId (.fault e) (.fault e)

/-- The same answer but for the identifier of the user's document. -/
inductive Answer.SameButId : Answer → Answer → Prop
  | built (selection : Event) {request request' : Except Error Request}
    (h : SameOutcome Request.SameButId request request') :
    SameButId (.built selection request) (.built selection request')
  | handled (outcome : Except Error Event) : SameButId (.handled outcome) (.handled outcome)

theorem request_sameButId (c : Creation) (id id' : ObjectId) (d : Description) :
    SameOutcome Request.SameButId (c.request id d) (c.request id' d) :=
  (agrees_ofId c.user id id').request d

/-- The identifier has no say in whether a request can be built. -/
theorem after_sameButId (c : Creation) {step step' : Step} (h : step.SameButId step') :
    c.after step = c.after step' := by
  cases h with
  | build id id' d =>
    have same := c.request_sameButId id id' d
    rw [after, after]
    generalize built : c.request id d = request, built' : c.request id' d = request' at same
    cases same with
    | failed e => rw [afterBuild_of_error built, afterBuild_of_error built']
    | given => rw [afterBuild_of_ok built, afterBuild_of_ok built']
  | reply | fault => rfl

/-- The answers of a creation to the same uses are the same but for identifiers. -/
theorem answers_sameButId (c : Creation) {steps steps' : List Step}
    (h : List.Forall₂ Step.SameButId steps steps') :
    List.Forall₂ Answer.SameButId (c.answers steps) (c.answers steps') := by
  induction h generalizing c with
  | nil => exact .nil
  | cons first _ ih =>
    rw [answers, answers, ← c.after_sameButId first]
    refine .cons ?_ (ih _)
    cases first with
    | build id id' d => exact .built _ (c.request_sameButId id id' d)
    | reply | fault => exact .handled _

end Creation

/-- Over any history of one creation: what is left of it is the strategy of the last request that
could be built. A request that cannot be built leaves the creation as it was, and one that can
selects the command exactly for servers of wire version two and later. Replies are read by the last
strategy, errors are handed on, and neither changes anything. So histories with the same last
strategy answer all later uses alike. -/
theorem strategy_follows_last_build (u : NewUser) (steps : List Creation.Step) :
    let c := Creation.afterAll ⟨u, none⟩ steps
    c = ⟨u, Creation.lastSelected u steps⟩ ∧
      (∀ id d e, c.request id d = .error e → c.after (.build id d) = c) ∧
      (∀ id d request, c.request id d = .ok request → c.after (.build id d) =
        ⟨u, some (if 2 ≤ d.maxWireVersion.getD 0 then .command else .insert)⟩) ∧
      (∀ reply, c.after (.reply reply) = c ∧ c.answer (.reply reply) =
        .handled ((Creation.lastSelected u steps).elim
          (.error (.internal "createUser response handled before a request was built"))
          (·.acknowledgment reply))) ∧
      (∀ e, c.after (.fault e) = c ∧ c.answer (.fault e) = .handled (.error e)) ∧
      ∀ steps' later later', Creation.lastSelected u steps' = Creation.lastSelected u steps →
        List.Forall₂ Creation.Step.SameButId later later' →
        List.Forall₂ Creation.Answer.SameButId (c.answers later)
          ((Creation.afterAll ⟨u, none⟩ steps').answers later') := by
  intro c
  have left : c = ⟨u, Creation.lastSelected u steps⟩ :=
    (Creation.afterAll_eq ⟨u, none⟩ steps).trans (by rw [Option.or_none])
  refine ⟨left, fun id d e failed => Creation.afterBuild_of_error failed,
    fun id d request built => ?_, fun reply => ⟨rfl, ?_⟩, fun e => ⟨rfl, rfl⟩,
    fun steps' later later' same alike => ?_⟩
  · rw [Creation.after, Creation.afterBuild_of_ok built, Creation.forServer_eq, left]
  · rw [Creation.answer, Creation.handleReply, left]
    cases Creation.lastSelected u steps <;> rfl
  · have left' : Creation.afterAll ⟨u, none⟩ steps' = c := by
      rw [Creation.afterAll_eq, left, same, Option.or_none]
    rw [left']
    exact c.answers_sameButId alike

theorem strategy_follows_last_build_past_failure :
    let u : NewUser := ⟨⟨some "alice", some "app", none⟩, false, none⟩
    let modern : Description := ⟨.localhost, some 8, 16777216⟩
    let small : Description := ⟨.localhost, none, 48⟩
    let c := Creation.afterAll ⟨u, none⟩ [.build .zero modern]
    (∃ e, c.request .zero small = .error e) ∧ c.after (.build .zero small) = c ∧
      ∀ reply, List.Forall₂ Creation.Answer.SameButId (c.answers [.reply reply])
        ((Creation.afterAll ⟨u, none⟩ [.build .zero modern, .build .zero small]).answers
          [.reply reply]) := by
  intro u modern small c
  obtain ⟨-, kept, -, -, -, alike⟩ := strategy_follows_last_build u [.build .zero modern]
  have failed : ∃ e, c.request .zero small = .error e := ⟨_, rfl⟩
  obtain ⟨e, failed'⟩ := failed
  exact ⟨⟨e, failed'⟩, kept _ _ e failed', fun reply =>
    alike [.build .zero modern, .build .zero small] _ _ rfl (.cons (.reply reply) .nil)⟩

end UserProvision
