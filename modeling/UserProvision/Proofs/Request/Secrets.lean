import UserProvision.Proofs.Document.ReadBack
import UserProvision.Proofs.Text.LowerCase
import UserProvision.Request.Basic

/-!
# Which bodies stay out of logs

A command is secret just if its name is one of six, but for the case of letters in ASCII. No other
character leads to one of these names, so neither does a spelling that a server takes for such a
name escape, nor is any other name caught. The text of a secret command, and that of every insert,
is the same whatever it carries.

## Main results

* `Command.isSecret_iff` — which commands are secret.
* `secrets_stay_out_of_logs` — what the texts of commands and of inserts show.
-/

namespace UserProvision

namespace Command

theorem logText_of_isSecret {c : Command} (h : c.isSecret = true) :
    c.logText = Document.relaxed [] :=
  if_pos h

theorem logText_of_read? {c : Command} (h : c.isSecret = false) {d : Document}
    (read : c.body.read? = some d) : c.logText = d.settled.relaxed := by
  simp [logText, h, RawDocument.shown?, read]

theorem logText_of_unreadable {c : Command} (h : c.isSecret = false)
    (unreadable : c.body.read? = none) : c.logText = Document.relaxed [] := by
  simp [logText, h, RawDocument.shown?, unreadable]

/-- The names are in small letters of ASCII, and none of these is a `k`. -/
theorem plain_of_mem_secretNames : ∀ word ∈ secretNames,
    word.toList.all (fun x => x.toNat < 0x80 && x != 'k') = true ∧
      word.toList.map Char.toLower = word.toList := by
  decide

/-- A lower-case form of a name is secret just if the name is, but for the case of letters in ASCII.
It does not matter which small sigma was taken. -/
theorem mem_secretNames_iff {name : String} {form : List Char}
    (lowers : LowerCase.Lowers name.toList form) :
    String.ofList form ∈ secretNames ↔ ∃ word ∈ secretNames, LowerCase.SameLetters name word := by
  have same {word : String} (mem : word ∈ secretNames) :
      form = word.toList ↔ LowerCase.SameLetters name word := by
    obtain ⟨plain, small⟩ := plain_of_mem_secretNames word mem
    rw [lowers.eq_iff (by simpa using plain), LowerCase.SameLetters, small]
  constructor
  · intro mem
    exact ⟨_, mem, (same mem).mp String.toList_ofList.symm⟩
  · rintro ⟨word, mem, letters⟩
    rwa [(same mem).mpr letters, String.ofList_toList]

theorem isSecret_iff (c : Command) :
    c.isSecret = true ↔ ∃ word ∈ secretNames, LowerCase.SameLetters c.name word := by
  rw [isSecret, List.contains_iff_mem, ← mem_secretNames_iff (LowerCase.lowers_ofText c.name),
    String.ofList_toList]

end Command

/-- The body of a command shows in logs just if its name is none of six, which may be spelled with
small and capital letters of ASCII. If it is one of them, the text is that of an empty document
whatever the body is. If not, the text is that of the document that the body holds, with each key
once, or of an empty one if the body cannot be read. Inserted documents never show. It would not
matter if a capital sigma became the final sigma. -/
theorem secrets_stay_out_of_logs (name database database' : String) (body body' : RawDocument) :
    let secret := ∃ word ∈ ["authenticate", "saslstart", "saslcontinue", "getnonce", "createuser",
      "updateuser"], LowerCase.SameLetters name word
    let c : Command := ⟨name, database, body⟩
    let c' : Command := ⟨name, database', body'⟩
    (c.isSecret = true ↔ secret) ∧
    (∀ form, LowerCase.Lowers name.toList form →
      (String.ofList form ∈ Command.secretNames ↔ secret)) ∧
    (secret → c.logText = "\x7b\x7d" ∧ c'.logText = "\x7b\x7d") ∧
    (¬ secret →
      (∀ d, body.read? = some d → c.logText = d.settled.relaxed) ∧
      (body.read? = none → c.logText = "\x7b\x7d") ∧
      ∀ d : Document, d.IsLegible → (RawDocument.ofDocument d).size ≤ 256 ^ 4 →
        Command.logText ⟨name, database, .ofDocument d⟩ = d.settled.relaxed) ∧
    (Request.command c).logText = c.logText ∧
    ∀ i : Insert, (Request.insert i).logText = "\x7b\x7d" := by
  intro secret c c'
  have isSecret (database : String) (body : RawDocument) :
      (Command.mk name database body).isSecret = true ↔ secret :=
    Command.isSecret_iff _
  refine ⟨isSecret database body, fun form lowers => Command.mem_secretNames_iff lowers, ?_, ?_,
    rfl, fun _ => rfl⟩
  · intro hidden
    exact ⟨Command.logText_of_isSecret ((isSecret database body).mpr hidden),
      Command.logText_of_isSecret ((isSecret database' body').mpr hidden)⟩
  · intro shown
    have plain (body : RawDocument) : (Command.mk name database body).isSecret = false := by
      rw [← Bool.not_eq_true, isSecret]
      exact shown
    refine ⟨fun d read => Command.logText_of_read? (plain body) read,
      fun unreadable => Command.logText_of_unreadable (plain body) unreadable, ?_⟩
    intro d legible fits
    exact Command.logText_of_read? (plain _) (RawDocument.read?_ofDocument legible fits)

theorem secrets_stay_out_of_logs_but_of_dotted_name :
    let payload : Document := [("payload", .int32 1)]
    let hidden : Command := ⟨"SaslContInue", "app", .ofDocument payload⟩
    let shown : Command := ⟨"SaslCont\u0130nue", "app", .ofDocument payload⟩
    hidden.logText = "\x7b\x7d" ∧ shown.logText = "\x7b\"payload\":1\x7d" := by
  intro payload hidden shown
  have ⟨_, _, kept, _⟩ :=
    secrets_stay_out_of_logs hidden.name "app" "app" hidden.body hidden.body
  have ⟨_, _, _, told, _⟩ :=
    secrets_stay_out_of_logs shown.name "app" "app" shown.body shown.body
  have legible : payload.IsLegible := by
    rw [Document.isLegible_cons]
    exact ⟨⟨by decide, .scalar trivial⟩, Document.isLegible_nil⟩
  have text : payload.settled.relaxed = "\x7b\"payload\":1\x7d" := by decide +kernel
  exact ⟨(kept (by decide)).1, ((told (by decide)).2.2 payload legible (by decide)).trans text⟩

end UserProvision
