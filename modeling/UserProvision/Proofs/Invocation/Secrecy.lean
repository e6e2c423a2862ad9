import UserProvision.Creation.NewUser
import UserProvision.Proofs.Creation.Requests
import UserProvision.Proofs.Log.Lines
import UserProvision.Proofs.Pool.Script

/-!
# What credentials show

Two invocations for users of the same database log the same events, end with the same result and
hand their connections back in the same condition, whatever the users are called and whatever their
passwords are, as long as the names are equally long and both have a password or neither has. What
the requests say does not show, since logs leave it out and no message quotes it.
-/

namespace UserProvision

variable {σ κ : Type}

/-- Users that cannot be told apart from what is logged and returned. -/
structure NewUser.LooksLike (u u' : NewUser) : Prop where
  source : u.credential.source = u'.credential.source
  length : u.credential.name.utf8ByteSize = u'.credential.name.utf8ByteSize
  password : u.credential.password.isSome = u'.credential.password.isSome

/-! ## Requests -/

/-- The body of a command that creates a user stays out of logs. -/
theorem Command.logText_createUser (database : String) (body : RawDocument) :
    (Command.mk NewUser.commandName database body).logText = Document.relaxed [] := by
  have secret : secretNames.contains (LowerCase.ofText NewUser.commandName) = true := by decide
  exact if_pos secret

namespace NewUser.LooksLike

variable {u u' : NewUser}

theorem database (h : u.LooksLike u') : u.credential.database = u'.credential.database := by
  rw [Credential.database, Credential.database, h.source]

theorem size_document (h : u.LooksLike u') (id id' : ObjectId) :
    (RawDocument.ofDocument (u.document id)).size =
      (RawDocument.ofDocument (u'.document id')).size := by
  rw [NewUser.size_document, NewUser.size_document, h.length, h.password]

theorem command (h : u.LooksLike u') (fits : u.Fits) (fits' : u'.Fits) :
    SameOutcome Request.LooksLike (u.command.map .command) (u'.command.map .command) := by
  rw [command_eq fits, command_eq fits']
  refine .given ⟨rfl, h.database, ?_⟩
  simp only [Request.logText, Command.logText_createUser]

theorem insert (h : u.LooksLike u') (id id' : ObjectId) (maxSize : Int64) :
    SameOutcome Request.LooksLike ((u.insert id maxSize).map .insert)
      ((u'.insert id' maxSize).map .insert) := by
  rw [insert_eq, insert_eq, h.size_document id id', h.database]
  by_cases large : maxSize.toInt < (RawDocument.ofDocument (u'.document id')).size
  · rw [if_pos large, if_pos large]
    exact .failed _
  · rw [if_neg large, if_neg large]
    exact .given (Insert.looksLike rfl)

/-- Such users are requested alike from every server. -/
theorem agrees (h : u.LooksLike u') (fits : u.Fits) (fits' : u'.Fits) (id id' : ObjectId) :
    Creation.Agrees Request.LooksLike { user := u } id { user := u' } id' where
  selection d := by rw [Creation.selection, Creation.selection, h.database]
  strategy := rfl
  request d := by
    unfold Creation.request
    cases Strategy.forServer d with
    | command => exact h.command fits fits'
    | insert => exact h.insert id id' d.maxDocumentSize

end NewUser.LooksLike

/-! ## Invocations -/

/-- Credentials do not show. Invocations for users that look alike, on a pool that does not look at
what it is sent, cannot be told apart by their progress, their events or their check-ins, blocking
or polled and at every point of a run. The lines in which the events are told differ at most in the
order in which error texts list their labels, which is any order each time. Nor does the text of a
credential, or of a user to be created, show what the password is. The commands have to fit the
format: of a name so long that its size wraps around, parts would be read as further elements, and
their keys quoted. -/
theorem credentials_do_not_show {pool : Pool σ κ} (blind : pool.IsBlind fun _ _ => True)
    {u u' : NewUser} (alike : u.LooksLike u') (fits : u.Fits) (fits' : u'.Fits)
    (id id' : ObjectId) (s : σ) :
    ((u.execute pool id s).progress = (u'.execute pool id' s).progress ∧
      (u.execute pool id s).trace.events = (u'.execute pool id' s).trace.events ∧
      (u.execute pool id s).trace.LoggedAlike (u'.execute pool id' s).trace ∧
      (u.execute pool id s).trace.checkIns = (u'.execute pool id' s).trace.checkIns) ∧
    (∀ moves : List (Move σ),
      let r : Run σ κ := (Run.start u id s).follow pool moves
      let r' : Run σ κ := (Run.start u' id' s).follow pool moves
      r.progress = r'.progress ∧ r.trace.events = r'.trace.events ∧
        r.trace.LoggedAlike r'.trace ∧ r.trace.checkIns = r'.trace.checkIns ∧
        r.isOver = r'.isOver) ∧
    ∀ (v : NewUser) (password password' : String),
      let c : Credential := { v.credential with password := some password }
      let c' : Credential := { v.credential with password := some password' }
      c.inspect = c'.inspect ∧
        NewUser.inspect { v with credential := c } =
          NewUser.inspect { v with credential := c' } := by
  have blind' : pool.IsBlind Request.LooksLike := blind.mono fun _ _ _ => trivial
  have agrees := alike.agrees fits fits' id id'
  refine ⟨?_, ?_, ?_⟩
  · obtain ⟨turn, executes, same⟩ :=
      (u.execute_executes pool id s).mirrored (blind'.mirrorsCalls fun looks => looks) agrees rfl
    rw [executes.execute]
    exact ⟨same.progress, same.trace.events, .of_events same.trace.events, same.trace.checkIns⟩
  · intro moves r r'
    have started : (Run.start u id s : Run σ κ).Agrees Eq Request.LooksLike (Run.start u' id' s) :=
      ⟨.checkingOut agrees, rfl, rfl, .nil⟩
    have same : List.Forall₂ (Move.Agrees (Eq : σ → σ → Prop)) moves moves := by
      refine List.forall₂_same.mpr fun m _ => ?_
      cases m with
      | poll => exact .poll
      | drop => exact .drop
      | meanwhile change => exact .meanwhile fun _ _ eq => congrArg change eq
    rcases started.follow (blind'.mirrorsPolls fun looks => looks) same with together | ⟨-, parts⟩
    · exact ⟨together.progress, together.trace.events, .of_events together.trace.events,
        together.trace.checkIns, together.invocation.isOver⟩
    · exact absurd parts pool.not_parts
  · intro v password password'
    exact ⟨rfl, rfl⟩

theorem credentials_do_not_show_of_alice_and_carol :
    let alice : NewUser := ⟨⟨some "alice", some "app", some "secret"⟩, false, none⟩
    let carol : NewUser :=
      ⟨⟨some "carol", some "app", some "hunter2"⟩, true, some ⟨some .ofMajority⟩⟩
    let pool := (Script.silent fun _ _ => True).pool
    (alice.execute pool .zero ⟨(), 0, 0, none⟩).trace.events =
      (carol.execute pool .zero ⟨(), 0, 0, none⟩).trace.events := by
  intro alice carol pool
  have blind : pool.IsBlind fun _ _ => True := (Script.silent fun _ _ => True).isBlind
  have alike : alice.LooksLike carol := ⟨rfl, by decide, rfl⟩
  have fits : alice.Fits := by decide +kernel
  have fits' : carol.Fits := by decide +kernel
  have hidden := credentials_do_not_show blind alike fits fits' .zero .zero ⟨(), 0, 0, none⟩
  exact hidden.1.2.1

end UserProvision
