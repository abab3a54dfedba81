import Secrets.RemoteValues

set_option autoImplicit false

namespace Secrets

open Effects Effects.Tx Programs Tables Storage
open Framing (Bytes)

-- A request with the token it carries.
structure Sent where
  token : String
  call : Client.Call

abbrev Sent.Answer (sent : Sent) : Type := sent.call.Answer

def Custody.answer (custody : Custody) (sent : Sent) (state : Serving) : sent.Answer × Serving :=
  custody.send sent.token sent.call state

def carrying {Value : Type} (token : String) : Remote.Operation Value → Prog Sent Sent.Answer StorageError Value
  | .done value => .done value
  | .stop error => .stop error
  | .ask call next => .ask ⟨token, call⟩ fun answer => carrying token (next answer)

structure Errand where
  token : String
  transaction : Uuid
  command : Command

abbrev Completed : Type := (command : Command) × command.Answer

def Storage.Command.completed (command : Command) (outcome : Except StorageError command.Answer) : Except StorageError Completed :=
  outcome.map (Sigma.mk command)

abbrev Ending : Type := Prog Sent Sent.Answer StorageError Completed

abbrev Underway : Type := Thread Errand Sent Sent.Answer StorageError Completed

abbrev Clients : Type := Pool Errand Serving Sent Sent.Answer StorageError Completed

def Errand.finish (errand : Errand) (operation : Remote.Operation errand.command.Answer) : Ending :=
  carrying errand.token (operation >>= fun answer => pure ⟨errand.command, answer⟩)

def Errand.start (errand : Errand) : Underway :=
  ⟨errand, [], errand.finish (Remote.perform errand.transaction errand.command)⟩

def opening (errands : List Errand) (state : Serving) : Clients := ⟨state, errands.map Errand.start⟩

def Errand.reply {Value : Type} (errand : Errand) (next : Value → Remote.Operation errand.command.Answer) :
    Except Client.Error Value → Ending
  | .ok value => errand.finish (next value)
  | .error error => .stop (Remote.refusal error)

theorem finish_call (errand : Errand) (call : Client.Call) (next : call.Value → Remote.Operation errand.command.Answer) :
    errand.finish (Remote.call call >>= next) = .ask ⟨errand.token, call⟩ (errand.reply next) := by
  unfold Errand.finish Remote.call
  rw [Prog.ask_bind, Prog.ask_bind, carrying]
  congr 1
  funext answer
  cases answer <;> rfl

-- What an operation comes to, once no answer can change it: it has ended, or has
-- nothing left but its abort.
def settled : Ending → Option (Except StorageError Completed)
  | .done completed => some (.ok completed)
  | .stop error => some (.error error)
  | .ask ⟨_, .abort _ _⟩ next =>
      match next (.ok ()) with
      | .done completed => some (.ok completed)
      | .stop error => some (.error error)
      | .ask _ _ => none
  | .ask _ _ => none

def ended : Except StorageError Completed → Ending
  | .ok completed => .done completed
  | .error error => .stop error

theorem settled_ended (outcome : Except StorageError Completed) : settled (ended outcome) = some outcome := by
  cases outcome <;> rfl

def Unmoved (before after : World) : Prop := ∀ reference, after.record reference = before.record reference

theorem unmoved_trans (first middle last : World) (start : Unmoved first middle) (finish : Unmoved middle last) : Unmoved first last :=
  fun reference => (finish reference).trans (start reference)

-- What a rename is for: the value moves, the new name was free, and nothing else
-- is touched.
structure Moves (store : PostgresStore) (address : Address) (newName : SecretName) (before after : World) : Prop where
  value : ∃ value, store.holds before (Remote.reference address) = some value ∧
    store.holds after (Remote.reference (address.renamed newName)) = some value
  vacant : ¬before.active (address.renamed newName)
  gone : after.secrets.find (Remote.reference address) = none
  others : ∀ reference, reference ≠ Remote.reference address → reference ≠ Remote.reference (address.renamed newName) →
    after.record reference = before.record reference

structure Writes (store : PostgresStore) (address : Address) (value : SecretValue) (written : Storage.Written)
    (before after : World) : Prop where
  value : store.holds after (Remote.reference address) = some value.bytes
  created : (∃ version, written = .created version) ↔ before.secrets.find (Remote.reference address) = none
  others : ∀ reference, reference ≠ Remote.reference address → after.record reference = before.record reference

structure Deletes (address : Address) (before after : World) : Prop where
  held : before.secrets.find (Remote.reference address) ≠ none
  gone : after.secrets.find (Remote.reference address) = none
  others : ∀ reference, reference ≠ Remote.reference address → after.record reference = before.record reference

def Does (custody : Custody) (before after : World) : (command : Command) → command.Answer → Prop
  | .read target, revealed => Reveals custody before target.address revealed ∧ Unmoved before after
  | .write target value, written => Writes custody.service.store target.address value written before after
  | .delete target, _ => Deletes target.address before after
  | .rename target newName, _ => Moves custody.service.store target.address newName before after
  | .list scope, listed => Lists before scope listed ∧ Unmoved before after

def Storage.Command.Misses (world : World) : Command → Prop
  | .read target | .rename target _ => ¬world.active target.address
  | .delete target => world.secrets.find (Remote.reference target.address) = none
  | .write _ _ | .list _ => False

def Storage.Command.Clashes (world : World) : Command → Prop
  | .rename target newName => world.active target.address ∧ world.active (target.address.renamed newName)
  | .read _ | .write _ _ | .delete _ | .list _ => False

structure Refuses (command : Command) (error : StorageError) (before after : World) : Prop where
  missing : error = .notFound → command.Misses before
  taken : error = .conflict → command.Clashes before
  same : Unmoved before after

def Explains (custody : Custody) (command : Command) (before after : World) : Except StorageError Completed → Prop
  | .ok completed => ∃ answer, completed = ⟨command, answer⟩ ∧ Does custody before after command answer
  | .error error => Refuses command error before after

inductive InTurn (custody : Custody) : World → List (Command × Except StorageError Completed) → World → Prop where
  | start (before after : World) (same : Unmoved before after) : InTurn custody before [] after
  | next (before middle last after : World) (command : Command) (outcome : Except StorageError Completed)
      (past : List (Command × Except StorageError Completed)) (earlier : InTurn custody before past middle)
      (explains : Explains custody command middle last outcome) (same : Unmoved last after) :
      InTurn custody before (past ++ [(command, outcome)]) after

theorem in_turn_unmoved (custody : Custody) (before middle after : World) (past : List (Command × Except StorageError Completed))
    (earlier : InTurn custody before past middle) (same : Unmoved middle after) : InTurn custody before past after := by
  cases earlier with
  | start _ first => exact .start _ _ (unmoved_trans _ _ _ first same)
  | next first last _ command outcome past earlier explains rest =>
      exact .next _ first last _ command outcome past earlier explains (unmoved_trans _ _ _ rest same)

theorem kept_keyed (platform : Platform) (world : World) (kept : Kept platform world) : world.KeyedById := by
  obtain ⟨⟨ledger, represents⟩, _⟩ := kept
  exact represents.records.distinct

section Refused
variable (custody : Custody) (token : String) (reads : custody.extractors.Reads) (call : Client.Call) (placed : call.Placed)
  (state : Serving)
include reads placed

theorem told_missing (told : (custody.send token call state).1 = .error .notFound) :
    ∃ principal error, ((call.asked principal).perform custody.service.platform custody.service.store
      (custody.service.clocks (state.calls + 1)) state.world).1 = .error error ∧ Missing error := by
  rcases send_served custody token reads call placed state with ⟨error, refused, apart, _⟩ | ⟨principal, _, served⟩
  · exact absurd (Except.error.inj (refused.symm.trans told)) apart
  · refine ⟨principal, ?_⟩
    rw [served] at told
    cases ran : (call.asked principal).perform custody.service.platform custody.service.store
      (custody.service.clocks (state.calls + 1)) state.world with
    | mk outcome after =>
        cases outcome with
        | ok answer =>
            rw [stored_answer custody principal call state answer after ran] at told
            cases call <;> cases told
        | error error =>
            rw [stored_error custody principal call state error after ran] at told
            exact ⟨error, rfl, (seen_missing error).mp (Except.error.inj told)⟩

theorem quiet_record (plain : call.Plain) (none : call.changes = []) (keyed : state.world.KeyedById) :
    Unmoved state.world (custody.send token call state).2.world := fun reference =>
  (send_leaves custody token (fun _ => False) reads call placed plain (by simp [none]) state keyed).elsewhere reference id

theorem refused_unmoved (keyed : state.world.KeyedById) (error : Client.Error)
    (refused : (custody.send token call state).1 = .error error) : Unmoved state.world (custody.send token call state).2.world := by
  rcases send_served custody token reads call placed state with ⟨_, _, _, same⟩ | ⟨principal, _, served⟩
  · rw [same]
    exact fun _ => rfl
  rw [served] at refused ⊢
  cases ran : (call.asked principal).perform custody.service.platform custody.service.store
    (custody.service.clocks (state.calls + 1)) state.world with
  | mk outcome after =>
      cases outcome with
      | ok answer =>
          rw [stored_answer custody principal call state answer after ran] at refused
          cases call <;> cases refused
      | error reason =>
          rw [stored_error custody principal call state reason after ran]
          have rolled : after.secrets = state.world.secrets ∧ after.versions = state.world.versions := by
            cases call with
            | put input =>
                rw [show after = _ from atomic_rollback _ _ _ _ ran]
                exact ⟨rfl, rfl⟩
            | delete reference actor =>
                rw [show after = _ from atomic_rollback _ _ _ _ ran]
                exact ⟨rfl, rfl⟩
            | get reference =>
                have same : (get custody.service.store reference state.world).2 = state.world := get_still _ reference state.world
                rw [← same, show get custody.service.store reference state.world = _ from ran]
                exact ⟨rfl, rfl⟩
            | «exists» reference =>
                have same : (existsActive reference state.world).2 = state.world := exists_still reference state.world
                rw [← same, show existsActive reference state.world = _ from ran]
                exact ⟨rfl, rfl⟩
            | references tenant nameSpace =>
                have same : (Secrets.list tenant none state.world).2 = state.world := list_still tenant none state.world
                rw [← same, show Secrets.list tenant none state.world = _ from ran]
                exact ⟨rfl, rfl⟩
            | prepare tenant transaction actor mutations =>
                have unapplied := prepare_error _ _ _ _ _ _ _ _ _ _ ran
                exact ⟨unapplied.secrets, unapplied.versions⟩
            | commit tenant transaction =>
                have unapplied := commit_error _ _ _ _ _ _ _ _ ran
                exact ⟨unapplied.secrets, unapplied.versions⟩
            | abort tenant transaction =>
                rw [show after = _ from abort_error _ _ _ _ _ _ _ ran]
                exact ⟨rfl, rfl⟩
          exact fun reference => (leaves_same (fun _ => False) _ _ rolled.1 rolled.2 keyed).elsewhere reference id

end Refused

section Quiet
variable {Value : Type} (perform : (call : Client.Call) → Serving → call.Answer × Serving)

theorem run_quiet (operation : Remote.Operation Value) (quiet : operation.Asks fun _ => False) (state : Serving) :
    (run perform operation state).2 = state := by
  cases operation with
  | done value => rfl
  | stop error => rfl
  | ask call next => exact quiet.1.elim

theorem run_after (call : Client.Call) (next : call.Value → Remote.Operation Value) (quiet : ∀ value, (next value).Asks fun _ => False)
    (state : Serving) : (run perform (Remote.call call >>= next) state).2 = (perform call state).2 := by
  rcases run_call perform call next state with ⟨_, _, ran⟩ | ⟨value, _, ran⟩
  · rw [ran]
  · rw [ran]
    exact run_quiet perform (next value) (quiet value) _

theorem finish_quiet (errand : Errand) (operation : Remote.Operation errand.command.Answer) (quiet : operation.Asks fun _ => False)
    (state : Serving) : errand.finish operation = ended (errand.command.completed (run perform operation state).1) := by
  cases operation with
  | done value => rfl
  | stop error => rfl
  | ask call next => exact quiet.1.elim

theorem reply_quiet (errand : Errand) (call : Client.Call) (next : call.Value → Remote.Operation errand.command.Answer)
    (quiet : ∀ value, (next value).Asks fun _ => False) (state : Serving) :
    errand.reply next (perform call state).1 =
      ended (errand.command.completed (run perform (Remote.call call >>= next) state).1) := by
  rcases run_call perform call next state with ⟨error, answered, ran⟩ | ⟨value, answered, ran⟩
  · rw [ran, answered]
    rfl
  · rw [ran, answered]
    exact finish_quiet perform errand (next value) (quiet value) _

end Quiet

def Remote.shown (target : Target) (stored : StoredSecret) : Remote.Operation Revealed := do
  Prog.ensure (decide (stored.metadata.reference = Remote.reference target.address)) .notFound
  let value ← Prog.lift ((SecretValue.new stored.value).mapError fun _ => .unavailable)
  pure ⟨value, some (Remote.version stored.metadata)⟩

def Remote.told (metadata : Secrets.SecretMetadata) : Remote.Operation Storage.Written :=
  pure (if metadata.version = 1 then .created (some (Remote.version metadata)) else .replaced (some (Remote.version metadata)))

theorem shown_quiet (target : Target) (stored : StoredSecret) : (Remote.shown target stored).Asks fun _ => False := by
  apply Prog.asks_bind _ _ _ (Prog.asks_ensure _ _ _)
  intro _
  exact Prog.asks_bind _ _ _ (Prog.asks_lift _ _) fun _ => trivial

theorem told_quiet (metadata : Secrets.SecretMetadata) : (Remote.told metadata).Asks fun _ => False := trivial

def Remote.stored (target : Target) (value : SecretValue) : PutSecret :=
  Remote.put (Remote.reference target.address) (Remote.owner target.address).text value.bytes .workloadOnly Labels.new

theorem write_tells (target : Target) (value : SecretValue) :
    Remote.write target value = if value.bytes.length ≤ Remote.maxValueBytes then
      Remote.call (.put (Remote.stored target value)) >>= fun metadata => Remote.told metadata else .stop .tooLarge := by
  rw [Remote.write, Prog.ensure]
  by_cases short : value.bytes.length ≤ Remote.maxValueBytes
  · rw [if_pos short, if_pos (decide_eq_true short)]
    rfl
  · rw [if_neg short, if_neg (by simpa using short)]
    rfl

def Remote.listed (scope : Scope) (references : List Secrets.SecretMetadata) : Remote.Operation (List Storage.SecretMetadata) :=
  pure (sort ((references.filter fun metadata => decide (metadata.state = .active)).filterMap (Remote.row scope)))

theorem listed_quiet (scope : Scope) (references : List Secrets.SecretMetadata) :
    (Remote.listed scope references).Asks fun _ => False := trivial

theorem done_quiet (done : Unit) : (Prog.done done : Remote.Operation Unit).Asks fun _ => False := trivial

theorem call_done (call : Client.Call) : Remote.call call = Remote.call call >>= fun value => .done value := by
  unfold Remote.call
  rw [Prog.ask_bind]
  congr 1
  funext answer
  cases answer <;> rfl

section Alone
variable (custody : Custody) (token : String) (reads : custody.extractors.Reads) (state : Serving)
include reads

theorem get_told (kept : Kept custody.service.platform state.world) (address : Address)
    (told : (custody.send token (.get (Remote.reference address)) state).1 = .error .notFound) : ¬state.world.active address := by
  obtain ⟨principal, error, failed, missing⟩ := told_missing custody token reads (.get (Remote.reference address))
    (placed_reference _) state told
  rw [← unreadable_inactive _ _ kept address]
  change (get custody.service.store (Remote.reference address) state.world).1 = _ at failed
  rw [get_answer custody.service.store _ _ (reference_clean address)] at failed
  cases readable : state.world.readable (Remote.reference address) with
  | none => rfl
  | some pair =>
      rw [readable] at failed
      dsimp only at failed
      split at failed
      · cases failed
      · cases failed
        simp [Missing] at missing

theorem get_own (address : Address) (stored : StoredSecret)
    (answered : (custody.send token (.get (Remote.reference address)) state).1 = .ok stored) :
    stored.metadata.reference = Remote.reference address := by
  obtain ⟨_, answer, _, got, _, decoded⟩ := asked_once custody token reads (.get (Remote.reference address))
    (placed_reference _) stored state answered
  cases decoded
  obtain ⟨row, version, readable, shown, _⟩ := get_ok _ _ stored _ _ got
  have key : row.reference = Remote.reference address := Table.find_key _ _ _ (readable_row _ _ row version readable).1
  rw [shown]
  exact key

theorem call_refuses {Value : Type} (call : Client.Call) (placed : call.Placed) (command : Command)
    (next : call.Value → Remote.Operation Value) (quiet : ∀ value, (next value).Asks fun _ => False)
    (keyed : state.world.KeyedById) (missing : (custody.send token call state).1 = .error .notFound → command.Misses state.world)
    (goes : ∀ value, (custody.send token call state).1 = .ok value → ∀ error, (run (custody.send token) (next value)
      (custody.send token call state).2).1 = .error error → error = .unavailable ∧ Unmoved state.world (custody.send token call state).2.world)
    (error : StorageError) (after : Serving)
    (ran : run (custody.send token) (Remote.call call >>= next) state = (.error error, after)) :
    Refuses command error state.world after.world := by
  have last : after = (custody.send token call state).2 :=
    (congrArg Prod.snd ran).symm.trans (run_after (custody.send token) call next quiet state)
  rw [last]
  rcases run_call (custody.send token) call next state with ⟨reason, answered, other⟩ | ⟨value, answered, other⟩
  · have told := Except.error.inj (congrArg Prod.fst (other.symm.trans ran))
    refine ⟨?_, ?_, refused_unmoved custody token reads call placed state keyed reason answered⟩
    · rintro rfl
      have notFound := (refusal_missing reason).mp told
      subst notFound
      exact missing answered
    · rintro rfl
      exact absurd told (refusal_not_conflict reason)
  · obtain ⟨rfl, same⟩ := goes value answered error (congrArg Prod.fst (other.symm.trans ran))
    exact ⟨fun wrong => (by cases wrong), fun wrong => (by cases wrong), same⟩

theorem read_explained (kept : Kept custody.service.platform state.world) (target : Target)
    (outcome : Except StorageError Revealed) (after : Serving)
    (ran : run (custody.send token) (Remote.read target) state = (outcome, after)) :
    Explains custody (.read target) state.world after.world (Command.completed (.read target) outcome) := by
  have keyed := kept_keyed _ _ kept
  have same := quiet_record custody token reads (.get (Remote.reference target.address)) (placed_reference _) state
    (fun _ _ => Client.Call.noConfusion) rfl keyed
  cases outcome with
  | ok revealed =>
      refine ⟨revealed, rfl, read_reveals custody token reads target revealed state after ran, ?_⟩
      have last : after = (custody.send token (.get (Remote.reference target.address)) state).2 :=
        (congrArg Prod.snd ran).symm.trans (run_after (custody.send token) _ _ (shown_quiet target) state)
      rw [last]
      exact same
  | error error =>
      refine call_refuses custody token reads state (.get (Remote.reference target.address)) (placed_reference _) (.read target) _
        (shown_quiet target) keyed (get_told custody token reads state kept target.address) ?_ error after ran
      intro stored answered reason failed
      refine ⟨?_, same⟩
      rw [Remote.shown, get_own custody token reads state target.address stored answered, decide_eq_true rfl] at failed
      simp only [Prog.ensure, if_true, Prog.done_bind] at failed
      cases short : SecretValue.new stored.value with
      | ok value =>
          rw [short] at failed
          cases failed
      | error tooLong =>
          rw [short] at failed
          cases failed
          rfl

theorem write_explained (kept : Kept custody.service.platform state.world) (target : Target) (value : SecretValue)
    (outcome : Except StorageError Storage.Written) (after : Serving)
    (ran : run (custody.send token) (Remote.call (.put (Remote.stored target value)) >>= fun metadata => Remote.told metadata) state =
      (outcome, after)) :
    Explains custody (.write target value) state.world after.world (Command.completed (.write target value) outcome) := by
  have keyed := kept_keyed _ _ kept
  cases outcome with
  | error error =>
      refine call_refuses custody token reads state (.put (Remote.stored target value)) (placed_reference _) (.write target value)
        Remote.told told_quiet keyed ?_ ?_ error after ran
      · intro told
        obtain ⟨principal, reason, failed, missing⟩ := told_missing custody token reads (.put (Remote.stored target value))
          (placed_reference _) state told
        obtain ⟨_, ran, _⟩ := (atomic_error _ _ _ _ _).mp (Prod.ext failed rfl)
        exact put_tx_found _ _ _ _ _ _ _ _ ran missing
      · intro metadata _ reason failed
        cases failed
  | ok written =>
      rcases run_call (custody.send token) (.put (Remote.stored target value)) Remote.told state with
        ⟨_, _, other⟩ | ⟨metadata, answered, other⟩
      · cases other.symm.trans ran
      cases other.symm.trans ran
      obtain ⟨principal, answer, last, put, there, decoded⟩ := asked_once custody token reads (.put (Remote.stored target value))
        (placed_reference _) metadata state answered
      cases decoded
      change Explains _ _ _ (custody.send token _ state).2.world _
      rw [there]
      obtain ⟨⟨ledger, represents⟩, _⟩ := kept
      have done := put_tx_ok _ _ _ _ _ _ _ _ ((atomic_ok _ _ _ _ _).mp put)
      refine ⟨_, rfl, put_holds _ _ _ _ _ _ _ metadata done, ?_, ?_⟩
      · obtain ⟨_, number⟩ := put_answer custody.service.platform ledger state.world represents custody.service.store _ _ metadata _ put
        constructor
        · rintro ⟨version, created⟩
          cases known : ledger.records (Remote.reference target.address) with
          | none => exact represents.records.absent _ known
          | some record =>
              have counted : metadata.version = record.version + 1 := by
                refine number.trans ?_
                change (ledger.records (Remote.reference target.address)).elim _ _ = _
                rw [known]
                rfl
              have later : metadata.version ≠ 1 := by
                rw [counted, Record.version]
                omega
              rw [if_neg later] at created
              cases created
        · intro unknown
          have unseen : ledger.records (Remote.reference target.address) = none := by
            cases known : ledger.records (Remote.reference target.address) with
            | none => rfl
            | some record =>
                obtain ⟨row, found, _⟩ := represents.records.present _ record known
                cases found.symm.trans unknown
          have first : metadata.version = 1 := by
            refine number.trans ?_
            change (ledger.records (Remote.reference target.address)).elim _ _ = _
            rw [unseen]
            rfl
          exact ⟨_, if_pos first⟩
      · intro reference apart
        exact (leaves_put _ _ _ (fun other => Remote.reference target.address = other) _ _ _ _ metadata done rfl keyed).elsewhere
          reference fun same => apart same.symm

theorem delete_explained (kept : Kept custody.service.platform state.world) (target : Target)
    (outcome : Except StorageError Unit) (after : Serving)
    (ran : run (custody.send token) (Remote.delete target) state = (outcome, after)) :
    Explains custody (.delete target) state.world after.world (Command.completed (.delete target) outcome) := by
  have keyed := kept_keyed _ _ kept
  let call : Client.Call := .delete (Remote.reference target.address) (Remote.owner target.address).text
  rw [Remote.delete, call_done] at ran
  cases outcome with
  | error error =>
      refine call_refuses custody token reads state call (placed_reference _) (.delete target)
        (fun done => .done done) done_quiet keyed ?_ ?_ error after ran
      · intro told
        obtain ⟨principal, reason, failed, missing⟩ := told_missing custody token reads call (placed_reference _) state told
        obtain ⟨_, ran, _⟩ := (atomic_error _ _ _ _ _).mp (Prod.ext failed rfl)
        change state.world.secrets.find _ = none
        cases found : state.world.secrets.find (Remote.reference target.address) with
        | none => rfl
        | some row => exact absurd missing (delete_tx_found _ _ _ _ _ row reason found ran)
      · intro done _ reason failed
        cases failed
  | ok done =>
      rcases run_call (custody.send token) call (fun done => .done done) state with ⟨_, _, other⟩ | ⟨done, answered, other⟩
      · cases other.symm.trans ran
      cases other.symm.trans ran
      obtain ⟨principal, finished, last, deleted, there, _⟩ := asked_once custody token reads call (placed_reference _) done state answered
      change Explains _ _ _ (custody.send token _ state).2.world _
      rw [there]
      have removed := (atomic_ok _ _ _ _ _).mp deleted
      obtain ⟨_, _, _, row, found, rest⟩ := (delete_tx_ok _ _ _ _ _ _).mp removed
      refine ⟨_, rfl, ?_, ?_, ?_⟩
      · change state.world.secrets.find (Remote.reference target.address) = some row at found
        rw [found]
        exact Option.some_ne_none row
      · rw [← rest]
        change (state.world.dropSecret row).secrets.find (Remote.reference target.address) = none
        rw [find_drop_secret, if_pos (Table.find_key _ _ _ found)]
      · intro reference apart
        exact (leaves_delete _ (fun other => Remote.reference target.address = other) _ _ _ _ finished rfl removed keyed).elsewhere
          reference fun same => apart same.symm

theorem list_explained (kept : Kept custody.service.platform state.world) (scope : Scope)
    (outcome : Except StorageError (List Storage.SecretMetadata)) (after : Serving)
    (ran : run (custody.send token) (Remote.list scope) state = (outcome, after)) :
    Explains custody (.list scope) state.world after.world (Command.completed (.list scope) outcome) := by
  have keyed := kept_keyed _ _ kept
  let call : Client.Call := .references scope.tenant.text scope.nameSpace.text
  have same := quiet_record custody token reads call ⟨scope.tenant, rfl⟩ state (fun _ _ => Client.Call.noConfusion) rfl keyed
  cases outcome with
  | error error =>
      refine call_refuses custody token reads state call ⟨scope.tenant, rfl⟩ (.list scope) (Remote.listed scope) (listed_quiet scope) keyed
        ?_ ?_ error after ran
      · intro told
        obtain ⟨principal, reason, failed, missing⟩ := told_missing custody token reads call ⟨scope.tenant, rfl⟩ state told
        have found : Never Missing (Secrets.list scope.tenant.text none) :=
          never_bind _ _ _ (select_never Missing unavailable_found _ _) fun _ => never_pure _ _
        exact found _ _ _ (Prod.ext failed rfl) missing
      · intro rows _ reason failed
        cases failed
  | ok listed =>
      refine ⟨listed, rfl, list_lists custody token reads scope listed state after ran, ?_⟩
      have last : after = (custody.send token call state).2 :=
        (congrArg Prod.snd ran).symm.trans (run_after (custody.send token) call (Remote.listed scope) (listed_quiet scope) state)
      rw [last]
      exact same

end Alone
end Secrets
