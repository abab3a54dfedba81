import Secrets.BatchCalls

set_option autoImplicit false

namespace Secrets

open Programs RowLocks
open Framing (Bytes)

namespace BatchCalls

abbrev Rows : Type := Place → Option PreparedRow
abbrev Done : Type := Settled Place PreparedRow Deed
abbrev Stage : Type := Phase Place PreparedRow Deed

def anything : Terms Place PreparedRow := ⟨True, fun _ _ => True, fun _ => True⟩

def Sealed (platform : Platform) (row : PreparedRow) (expiry : Int) (mutations : List Mutation) : Prop :=
  ∃ batch json, Content row.envelope (batchAssociatedData row.tenant row.id row.actor) batch ∧
    splitExpiry batch = some (expiry, json) ∧ platform.codec.fromSlice json = some mutations

def applying (actor : String) (mutations : List Mutation) : List Deed := mutations.map (Deed.mutation actor) ++ [.audit actor]

-- The kinds of transactions: what each finds, and what it leaves.
inductive Lawful (platform : Platform) (task : Task) (before : Rows) (what : Done) : Prop where
  | idles (notes : what.notes = []) (rows : ∀ place, what.rows place = none)
  | purges (notes : what.notes = [])
      (rows : ∀ place row, what.rows place = some row → row = none ∧
        ∃ old, before place = some old ∧ old.expiresAt ≤ task.clock.statement)
  | prepares (store : PostgresStore) (clock : Clock) (drawn : Draw) (visited : List Place) (tenant : String) (transaction : Uuid)
      (mutations : List Mutation) (actor : String) (row : PreparedRow)
      (called : task = .prepare store clock drawn visited tenant transaction mutations actor) (notes : what.notes = [])
      (rows : what.rows = only (tenant, transaction) (some row)) (free : before (tenant, transaction) = none)
      (placed : row.address = (tenant, transaction)) (named : row.actor = actor)
      (expires : row.expiresAt = prepareExpiry store clock * 1000000)
      (holds : Sealed platform row (prepareExpiry store clock) mutations)
  | applies (store : PostgresStore) (clock : Clock) (visited : List Place) (tenant : String) (transaction : Uuid)
      (row : PreparedRow) (expiry : Int) (mutations : List Mutation)
      (called : task = .commit store clock visited tenant transaction) (notes : what.notes = applying row.actor mutations)
      (rows : what.rows = only (tenant, transaction) none) (held : before (tenant, transaction) = some row)
      (live : clock.transaction < row.expiresAt) (sealedLive : clock.transaction < expiry * 1000000)
      (holds : Sealed platform row expiry mutations)
  | lapses (store : PostgresStore) (clock : Clock) (visited : List Place) (tenant : String) (transaction : Uuid)
      (row : PreparedRow) (expiry : Int) (batch json : Bytes)
      (called : task = .commit store clock visited tenant transaction) (notes : what.notes = [])
      (rows : what.rows = only (tenant, transaction) none) (held : before (tenant, transaction) = some row)
      (content : Content row.envelope (batchAssociatedData row.tenant row.id row.actor) batch)
      (split : splitExpiry batch = some (expiry, json)) (passed : expiry * 1000000 ≤ clock.transaction)
  | aborts (store : PostgresStore) (clock : Clock) (tenant : String) (transaction : Uuid) (row : PreparedRow)
      (called : task = .abort store clock tenant transaction) (notes : what.notes = [])
      (rows : what.rows = only (tenant, transaction) none) (held : before (tenant, transaction) = some row)
  | rewraps (notes : what.notes = [.rewrap]) (rows : ∀ place, what.rows place = none)
  | reseals (store : PostgresStore) (clock : Clock) (drawn : Place → Draw) (visited : List Place)
      (called : task = .rewrapAll store clock drawn visited) (notes : what.notes = [])
      (rows : ∀ place row, what.rows place = some row → ∃ old, before place = some old ∧
        (row = none ∧ old.expiresAt ≤ clock.transaction ∨ ∃ new, row = some new ∧ SameBatch old new))

abbrev law (platform : Platform) (task : Task) : Law Place PreparedRow Deed := fun _ => Lawful platform task

section Parts
variable (platform : Platform) (task : Task) (phase : Stage)

theorem meets_statement (law : Law Place PreparedRow Deed) (ends : Except StoreError (Option PreparedRow) → Stage → Prop) (place : Place)
    (sought : PreparedRow → Bool) (becomes : PreparedRow → Option PreparedRow) (fails : ends (.error .unavailable) phase)
    (missed : ends (.ok none) phase)
    (found : ∀ row, row.address = place → sought row = true → phase.Sees place (some row) →
      ends (.ok (some row)) (phase.claim place (some row) (becomes row))) :
    Meets anything law (change place sought becomes) ends phase := by
  apply meets_change
  · intro _ fault
    exact meets_stop _ law ends phase _ fails
  · intro _
    exact meets_done _ law ends phase _ missed
  · intro row fits sees
    rw [Bool.and_eq_true, decide_eq_true_eq] at fits
    exact meets_done _ law ends _ _ (found row fits.1 fits.2 sees.1)

theorem meets_deed (law : Law Place PreparedRow Deed) (ends : Except StoreError Unit → Stage → Prop) (deed : Deed)
    (fails : ∀ error, ends (.error error) phase) (done : ends (.ok ()) (phase.noted deed)) :
    Meets anything law (BatchCalls.deed deed) ends phase := by
  apply meets_note
  · intro _ fault
    exact meets_stop _ law ends phase _ (fails _)
  · exact meets_done _ law ends _ _ done

-- What a purge has under its lock: rows that have expired, to go.
structure Purging (settled : List Done) (now : Int) (live : Stage) : Prop where
  settled : live.settled = settled
  notes : live.notes = []
  rows : ∀ place was row, live.claims place = some (was, row) → row = none ∧ ∃ old, was = some old ∧ old.expiresAt ≤ now

theorem purging_claim (settled : List Done) (now : Int) (live : Stage) (purging : Purging settled now live) (place : Place)
    (row : PreparedRow) (expired : row.expiresAt ≤ now) : Purging settled now (live.claim place (some row) none) := by
  refine ⟨purging.settled, purging.notes, ?_⟩
  intro other was now' claimed
  unfold Phase.claim at claimed
  dsimp only at claimed
  by_cases same : other = place
  · rw [same, Function.update_self] at claimed
    obtain ⟨rfl, rfl⟩ := Prod.mk.inj (Option.some.inj claimed)
    refine ⟨rfl, ?_⟩
    cases before : live.claims place with
    | none => exact ⟨row, rfl, expired⟩
    | some pair => exact (purging.rows place pair.1 pair.2 before).2
  · rw [Function.update_of_ne same] at claimed
    exact purging.rows other was now' claimed

def Purged (what : Done) : Prop := what.notes = [] ∧ ∀ place row, what.rows place = some row → row = none

theorem meets_expire (law : Law Place PreparedRow Deed) (settled : List Done) (sought : PreparedRow → Bool) (now : Int) (place : Place)
    (purging : Purging settled now phase) :
    Meets anything law (expire sought now place) (Keeps (Purging settled now) fun live => live.settled = settled) phase := by
  apply meets_bind
  apply meets_statement
  · exact purging.settled
  · exact meets_done _ _ _ _ _ purging
  · intro row _ fits _
    rw [Bool.and_eq_true, decide_eq_true_eq] at fits
    exact meets_done _ _ _ _ _ (purging_claim settled now phase purging place row fits.2)

theorem purging_lawful (settled : List Done) (live : Stage) (purging : Purging settled task.clock.statement live) :
    live.Lawful (law platform task) := by
  intro before based
  apply Lawful.purges purging.notes
  intro place row changed
  obtain ⟨claim, claimed, rfl⟩ := Option.map_eq_some_iff.mp changed
  obtain ⟨gone, old, was, expired⟩ := purging.rows place claim.1 claim.2 claimed
  exact ⟨gone, old, (based place claim.1 claim.2 claimed).trans was, expired⟩

theorem purging_purged (settled : List Done) (now : Int) (live : Stage) (purging : Purging settled now live) : Purged live.leaves := by
  refine ⟨purging.notes, ?_⟩
  intro place row changed
  obtain ⟨claim, claimed, rfl⟩ := Option.map_eq_some_iff.mp changed
  exact (purging.rows place claim.1 claim.2 claimed).1

theorem purging_start (settled : List Done) (now : Int) : Purging settled now (Phase.closed settled) := by
  refine ⟨rfl, rfl, ?_⟩
  intro place was row claimed
  cases claimed

theorem meets_purge (settled : List Done) (tenant : String) (visited : List Place) :
    Meets anything (law platform task) (purgeExpired task.clock tenant visited) (Left settled fun _ => Purged) (Phase.closed settled) := by
  apply meets_transaction
  apply meets_mono _ _ _ _ _ _ _ (meets_each _ _ _ _ (fun _ => Purging settled task.clock.statement) (fun live => live.settled = settled) visited
    (fun _ place live _ purging => meets_expire live _ settled _ _ place purging) [] (purging_start settled _))
  intro ended live kept
  cases ended with
  | error error => exact kept
  | ok done => exact ⟨kept.settled, purging_lawful platform task settled live kept, purging_purged settled _ live kept⟩

end Parts

def Task.Ends : Task → Except StoreError Unit → List Done → Prop
  | .prepare _ _ _ _ tenant transaction _ _, .ok _, settled =>
      ∃ purged put row, settled = [purged, put] ∧ Purged purged ∧ put.notes = [] ∧ put.rows = only (tenant, transaction) (some row)
  | .commit _ _ _ tenant transaction, .ok _, settled =>
      ∃ purged applied, settled = [purged, applied] ∧ Purged purged ∧ applied.notes ≠ [] ∧ applied.rows = only (tenant, transaction) none
  | .abort _ _ tenant transaction, .ok _, settled =>
      ∃ dropped, settled = [dropped] ∧ dropped.notes = [] ∧ dropped.rows = only (tenant, transaction) none
  | .abort _ _ _ _, .error _, settled => ∀ what ∈ settled, what.notes = [] ∧ ∀ place, what.rows place = none
  | .rewrapAll _ _ _ _, _, settled => ∀ what ∈ settled, what.notes = [] ∨ what.notes = [.rewrap]
  | _, .error _, settled => ∀ what ∈ settled, Purged what

section Programs
variable (platform : Platform) (store : PostgresStore) (clock : Clock)

theorem claim_leaves (settled : List Done) (place : Place) (seen row : Option PreparedRow) (notes : List Deed) :
    ({ (Phase.closed settled).claim place seen row with notes := notes } : Stage).leaves = ⟨only place row, notes⟩ := by
  unfold Phase.claim Phase.leaves
  dsimp only
  congr 1
  funext other
  rw [only]
  by_cases same : other = place
  · rw [same, Function.update_self, if_pos rfl]
    rfl
  · rw [Function.update_of_ne same, if_neg same]
    rfl

theorem claim_found (settled : List Done) (place : Place) (seen row : Option PreparedRow) (before : Rows)
    (based : ∀ other was now, ((Phase.closed settled).claim place seen row).claims other = some (was, now) → before other = was) :
    before place = seen := by
  apply based place seen row
  exact Function.update_self _ _ _

theorem meets_put (task : Task) (settled : List Done) (row : PreparedRow)
    (lawful : ∀ before : Rows, before row.address = none → Lawful platform task before ⟨only row.address (some row), []⟩) :
    Meets anything (law platform task) (atomically unavailable (insert row)) (Left settled fun _ put => put = ⟨only row.address (some row), []⟩)
      (Phase.closed settled) := by
  apply meets_transaction
  apply meets_insert
  · intro _ fault
    exact meets_stop _ _ _ _ _ rfl
  · exact meets_stop _ _ _ _ _ rfl
  · intro _
    apply meets_done
    have leaves := claim_leaves settled row.address none (some row) []
    refine ⟨rfl, ?_, leaves⟩
    intro before based
    rw [show ((Phase.closed settled).claim row.address none (some row)).leaves = _ from leaves]
    exact lawful before (claim_found settled row.address none (some row) before based)

theorem purged_all (settled : List Done) (every : ∀ what ∈ settled, Purged what) (what : Done) (purged : Purged what) :
    ∀ other ∈ settled ++ [what], Purged other := by
  intro other member
  rcases List.mem_append.mp member with inside | last
  · exact every other inside
  · cases List.mem_singleton.mp last
    exact purged

theorem prepare_meets (drawn : Draw) (visited : List Place) (tenant : String) (transaction : Uuid) (mutations : List Mutation)
    (actor : String) :
    Meets anything (law platform (.prepare store clock drawn visited tenant transaction mutations actor))
      (prepare platform store clock drawn visited tenant transaction mutations actor)
      (fun ended live => (Task.prepare store clock drawn visited tenant transaction mutations actor).Ends ended live.settled) Phase.start := by
  have untouched : ∀ what ∈ (Phase.start : Stage).settled, Purged what := fun _ member => by cases member
  unfold prepare
  apply meets_bind
  apply meets_ensure _ _ _ _ _ _ _ (fun _ => untouched)
  intro _
  apply meets_bind
  apply meets_ensure _ _ _ _ _ _ _ (fun _ => untouched)
  intro _
  apply meets_bind
  apply meets_lift
  cases service : unixSeconds clock with
  | error error => exact untouched
  | ok now =>
      apply meets_bind
      apply meets_ensure _ _ _ _ _ _ _ (fun _ => untouched)
      intro _
      simp only [Follows, batch_payload_ok, Keyring.sealBatch, seal_envelope_of, Prog.lift, Except.mapError, Prog.done_bind]
      apply meets_bind
      apply meets_mono _ _ _ _ _ _ _ (meets_purge platform _ [] tenant visited)
      intro ended live left
      cases ended with
      | error error =>
          change live = _ at left
          rw [left]
          exact untouched
      | ok done =>
          obtain ⟨purged, rfl, fair⟩ := left
          have clockSame : now = clock.service := by
            unfold unixSeconds at service
            split at service
            · exact (Except.ok.inj service).symm
            · cases service
          rw [clockSame]
          apply meets_mono _ _ _ _ _ _ _ (meets_put platform _ [purged] _ ?_)
          · intro ended live put
            cases ended with
            | error error =>
                change live = _ at put
                rw [put]
                exact purged_all [] untouched purged fair
            | ok done =>
                obtain ⟨what, rfl, rfl⟩ := put
                exact ⟨purged, _, _, rfl, fair, rfl, rfl⟩
          · intro before free
            exact .prepares store clock drawn visited tenant transaction mutations actor _ rfl rfl rfl free rfl rfl rfl
              ⟨_, _, ⟨_, envelope_of_sealed _ _ _ _⟩, split_expiry_payload _ _ (saturating_add_fits _ _), platform.codec.readsBack mutations⟩

def Claimed (settled : List Done) (place : Place) (row : PreparedRow) (notes : List Deed) : Stage :=
  { (Phase.closed settled).claim place (some row) none with notes := notes }

theorem meets_mutations (law : Law Place PreparedRow Deed) (settled : List Done) (place : Place) (row : PreparedRow) (mutations : List Mutation) :
    Meets anything law (each (fun mutation => deed (.mutation row.actor mutation)) mutations)
      (Keeps (fun live => live = Claimed settled place row (mutations.map (Deed.mutation row.actor))) fun live => live.settled = settled)
      (Claimed settled place row []) := by
  apply meets_each _ law _ _ (fun done live => live = Claimed settled place row (done.map (Deed.mutation row.actor)))
    (fun live => live.settled = settled) mutations _ [] rfl
  intro done mutation live _ same
  subst same
  apply meets_deed
  · intro error
    exact rfl
  · change Phase.noted _ _ = _
    rw [List.map_append]
    rfl

theorem commit_tx_meets (visited : List Place) (tenant : String) (transaction : Uuid) (settled : List Done) :
    Meets anything (law platform (.commit store clock visited tenant transaction))
      (atomically unavailable (commitTx platform store clock tenant transaction))
      (Left settled fun live what => what.rows = only (tenant, transaction) none ∧ (live = true → what.notes ≠ []) ∧ (live = false → what.notes = []))
      (Phase.closed settled) := by
  apply meets_transaction
  unfold commitTx
  apply meets_bind
  apply meets_statement
  · exact rfl
  · exact meets_stop _ _ _ _ _ rfl
  · intro row placed live _
    rw [decide_eq_true_eq] at live
    have based : ∀ (notes : List Deed) (before : Rows),
        (∀ key was now, (Claimed settled (tenant, transaction) row notes).claims key = some (was, now) → before key = was) →
          before (tenant, transaction) = some row :=
      fun notes before based => claim_found settled (tenant, transaction) (some row) none before based
    have content : ∀ batch, store.keyring.openBatch tenant transaction row.actor row.envelope = .ok batch →
        Content row.envelope (batchAssociatedData row.tenant row.id row.actor) batch := by
      intro batch opened
      obtain ⟨tenantSame, idSame⟩ := Prod.mk.inj placed
      rw [tenantSame, idSame]
      exact open_content _ _ _ _ opened
    change Meets anything _ (_ >>= _) _ (Claimed settled (tenant, transaction) row [])
    apply meets_bind
    apply meets_lift
    cases opened : store.keyring.openBatch tenant transaction row.actor row.envelope with
    | error error => exact rfl
    | ok batch =>
        simp only [Except.mapError, Follows]
        cases split : splitExpiry batch with
        | none => exact meets_stop _ _ _ _ _ rfl
        | some pair =>
            obtain ⟨expiry, json⟩ := pair
            dsimp only
            by_cases passed : expiry * 1000000 ≤ clock.transaction
            · rw [if_pos passed]
              apply meets_done
              have leaves := claim_leaves settled (tenant, transaction) (some row) none []
              refine ⟨rfl, ?_, ?_⟩
              · intro before found
                rw [show (Claimed settled (tenant, transaction) row []).leaves = _ from leaves]
                exact .lapses store clock visited tenant transaction row expiry batch json rfl rfl rfl (based [] before found)
                  (content batch opened) split passed
              · rw [show (Claimed settled (tenant, transaction) row []).leaves = _ from leaves]
                exact ⟨rfl, fun impossible => absurd impossible (by decide), fun _ => rfl⟩
            · rw [if_neg passed]
              cases decoded : platform.codec.fromSlice json with
              | none => exact meets_stop _ _ _ _ _ rfl
              | some mutations =>
                  dsimp only
                  apply meets_bind
                  apply meets_mono _ _ _ _ _ _ _ (meets_mutations _ settled (tenant, transaction) row mutations)
                  intro ended stage kept
                  cases ended with
                  | error error => exact kept
                  | ok done =>
                      rw [show stage = _ from kept]
                      apply meets_bind
                      apply meets_deed
                      · intro error
                        exact rfl
                      · apply meets_done
                        have leaves := claim_leaves settled (tenant, transaction) (some row) none (applying row.actor mutations)
                        refine ⟨rfl, ?_, ?_⟩
                        · intro before found
                          refine (show (Phase.leaves _) = _ from leaves) ▸ ?_
                          exact .applies store clock visited tenant transaction row expiry mutations rfl rfl rfl
                            (based _ before found) live (by omega) ⟨batch, json, content batch opened, split, decoded⟩
                        · refine (show (Phase.leaves _) = _ from leaves) ▸ ?_
                          refine ⟨rfl, fun _ => ?_, fun impossible => absurd impossible (by decide)⟩
                          simp [applying]

theorem commit_meets (visited : List Place) (tenant : String) (transaction : Uuid) :
    Meets anything (law platform (.commit store clock visited tenant transaction)) (commit platform store clock visited tenant transaction)
      (fun ended live => (Task.commit store clock visited tenant transaction).Ends ended live.settled) Phase.start := by
  have untouched : ∀ what ∈ ([] : List Done), Purged what := fun _ member => by cases member
  unfold commit
  apply meets_bind
  apply meets_mono _ _ _ _ _ _ _ (meets_purge platform _ [] tenant visited)
  intro ended live left
  cases ended with
  | error error =>
      rw [show live = _ from left]
      exact untouched
  | ok done =>
      obtain ⟨purged, rfl, fair⟩ := left
      apply meets_bind
      apply meets_mono _ _ _ _ _ _ _ (commit_tx_meets platform store clock visited tenant transaction [purged])
      intro ended live left
      cases ended with
      | error error =>
          rw [show live = _ from left]
          exact purged_all [] untouched purged fair
      | ok applied =>
          obtain ⟨what, rfl, rows, noted, silent⟩ := left
          apply meets_ensure
          · intro passed
            exact ⟨purged, what, rfl, fair, noted passed, rows⟩
          · intro failed
            apply purged_all _ (purged_all [] untouched purged fair)
            refine ⟨silent failed, ?_⟩
            intro place row changed
            rw [rows, only] at changed
            by_cases same : place = (tenant, transaction)
            · rw [if_pos same] at changed
              exact (Option.some.inj changed).symm
            · rw [if_neg same] at changed
              cases changed

theorem abort_meets (tenant : String) (transaction : Uuid) :
    Meets anything (law platform (.abort store clock tenant transaction)) (abort store clock tenant transaction)
      (fun ended live => (Task.abort store clock tenant transaction).Ends ended live.settled) Phase.start := by
  unfold abort
  apply meets_bind
  have dropped : Meets anything (law platform (.abort store clock tenant transaction)) (atomically unavailable (change (tenant, transaction)
      (fun row => decide (row.expiresAt > clock.statement) && decide (row.envelope.keyId ∈ store.keyring.keyIds)) fun _ => none))
      (Left [] fun found what => what.notes = [] ∧ (found.isSome = true → what.rows = only (tenant, transaction) none) ∧
        (found.isSome = false → ∀ place, what.rows place = none)) (Phase.closed []) := by
    apply meets_transaction
    apply meets_statement
    · exact rfl
    · refine ⟨rfl, ?_, rfl, fun impossible => absurd impossible (by decide), fun _ _ => rfl⟩
      intro before _
      exact .idles rfl fun _ => rfl
    · intro row placed fits _
      have leaves : ((Phase.closed []).claim (tenant, transaction) (some row) none).leaves = ⟨only (tenant, transaction) none, []⟩ :=
        claim_leaves [] (tenant, transaction) (some row) none []
      refine ⟨rfl, ?_, ?_⟩
      · intro before based
        rw [leaves]
        exact .aborts store clock tenant transaction row rfl rfl rfl (claim_found [] (tenant, transaction) (some row) none before based)
      · dsimp only
        rw [leaves]
        refine ⟨rfl, fun _ => rfl, ?_⟩
        intro impossible
        cases impossible
  apply meets_mono _ _ _ _ _ _ _ dropped
  intro ended live left
  cases ended with
  | error error =>
      rw [show live = _ from left]
      exact fun _ member => by cases member
  | ok found =>
      obtain ⟨what, rfl, notes, gone, missed⟩ := left
      apply meets_ensure
      · intro passed
        exact ⟨what, rfl, notes, gone passed⟩
      · intro failed other member
        cases List.mem_singleton.mp member
        exact ⟨notes, missed failed⟩

end Programs

section Reseals
variable (platform : Platform) (store : PostgresStore) (clock : Clock)

-- What a reseal has under its lock: expired rows, to go, and rows that go on
-- holding the batches they held.
structure Resealing (settled : List Done) (now : Int) (live : Stage) : Prop where
  settled : live.settled = settled
  notes : live.notes = []
  rows : ∀ place was row, live.claims place = some (was, row) → ∃ old, was = some old ∧
    (row = none ∧ old.expiresAt ≤ now ∨ ∃ new, row = some new ∧ SameBatch old new)

def Locked (live : Stage) (row : PreparedRow) : Prop :=
  ∃ old current, live.claims row.address = some (some old, some current) ∧ SameBatch old row ∧ SameBatch old current

theorem resealing_claim (settled : List Done) (now : Int) (live : Stage) (resealing : Resealing settled now live) (place : Place)
    (row new : PreparedRow) (sees : live.Sees place (some row)) (same : SameBatch row new) :
    Resealing settled now (live.claim place (some row) (some new)) := by
  refine ⟨resealing.settled, resealing.notes, ?_⟩
  intro other was after claimed
  by_cases here : other = place
  · subst here
    cases before : live.claims other with
    | none =>
        rw [claim_fresh live other _ _ before] at claimed
        cases claimed
        exact ⟨row, rfl, .inr ⟨new, rfl, same⟩⟩
    | some pair =>
        rw [claim_own live other _ _ pair.1 pair.2 before] at claimed
        cases claimed
        have seen := sees pair.1 pair.2 before
        obtain ⟨old, was, gone | ⟨current, now, kept⟩⟩ := resealing.rows other pair.1 pair.2 before
        · rw [gone.1] at seen
          cases seen
        · rw [now] at seen
          cases seen
          exact ⟨old, was, .inr ⟨new, rfl, same_batch_trans _ _ _ kept same⟩⟩
  · rw [claim_other live place other _ _ here] at claimed
    exact resealing.rows other was after claimed

theorem locked_claim (live : Stage) (held : PreparedRow) (locked : Locked live held) (place : Place) (row new : PreparedRow)
    (sees : live.Sees place (some row)) (same : SameBatch row new) : Locked (live.claim place (some row) (some new)) held := by
  obtain ⟨old, current, claimed, first, last⟩ := locked
  by_cases here : held.address = place
  · subst here
    have seen := sees _ _ claimed
    cases seen
    exact ⟨old, new, claim_own live _ _ _ _ _ claimed, first, same_batch_trans _ _ _ last same⟩
  · exact ⟨old, current, (claim_other live place held.address _ _ here).trans claimed, first, last⟩

theorem resealing_lawful (settled : List Done) (drawn : Place → Draw) (visited : List Place) (live : Stage)
    (resealing : Resealing settled clock.transaction live) : live.Lawful (law platform (.rewrapAll store clock drawn visited)) := by
  intro before based
  apply Lawful.reseals store clock drawn visited rfl resealing.notes
  intro place row changed
  obtain ⟨claim, claimed, rfl⟩ := Option.map_eq_some_iff.mp changed
  obtain ⟨old, was, kept⟩ := resealing.rows place claim.1 claim.2 claimed
  exact ⟨old, (based place claim.1 claim.2 claimed).trans was, kept⟩

theorem purging_resealing (settled : List Done) (now : Int) (live : Stage) (purging : Purging settled now live) :
    Resealing settled now live := by
  refine ⟨purging.settled, purging.notes, ?_⟩
  intro place was row claimed
  obtain ⟨gone, old, found, expired⟩ := purging.rows place was row claimed
  exact ⟨old, found, .inl ⟨gone, expired⟩⟩

def Scanned (settled : List Done) (now : Int) (known : List PreparedRow) : Except StoreError (List PreparedRow) → Stage → Prop
  | .ok rows, live => Resealing settled now live ∧ ∀ row ∈ known ++ rows, Locked live row
  | .error _, live => live.settled = settled

theorem lock_stale_meets (law : Law Place PreparedRow Deed) (settled : List Done) (visited : List Place) (known : List PreparedRow) (live : Stage)
    (resealing : Resealing settled clock.transaction live) (locked : ∀ row ∈ known, Locked live row) :
    Meets anything law (lockStale store clock visited) (Scanned settled clock.transaction known) live := by
  induction visited generalizing known live with
  | nil =>
      apply meets_done
      rw [Scanned, List.append_nil]
      exact ⟨resealing, locked⟩
  | cons place rest ih =>
      rw [lockStale]
      apply meets_bind
      apply meets_statement
      · exact resealing.settled
      · apply meets_bind
        apply meets_mono _ _ _ _ _ _ _ (ih known live resealing locked)
        intro ended after scanned
        cases ended with
        | error error => exact scanned
        | ok rows => exact meets_done _ _ _ _ _ scanned
      · intro row placed _ sees
        have same := same_batch_refl row
        have here : Locked (live.claim place (some row) (some row)) row := by
          rw [Locked, placed]
          cases before : live.claims place with
          | none => exact ⟨row, row, claim_fresh live place _ _ before, same, same⟩
          | some pair =>
              have seen := sees pair.1 pair.2 before
              obtain ⟨old, was, gone | ⟨current, now, kept⟩⟩ := resealing.rows place pair.1 pair.2 before
              · rw [gone.1] at seen
                cases seen
              · rw [now] at seen
                cases seen
                refine ⟨old, row, ?_, kept, kept⟩
                rw [← was]
                exact claim_own live place _ _ pair.1 pair.2 before
        apply meets_bind
        apply meets_mono _ _ _ _ _ _ _ (ih (known ++ [row]) _ (resealing_claim settled _ live resealing place row row sees same) _)
        · intro ended after scanned
          cases ended with
          | error error => exact scanned
          | ok rows =>
              apply meets_done
              obtain ⟨stays, every⟩ := scanned
              rw [List.append_assoc] at every
              exact ⟨stays, every⟩
        · intro other member
          rcases List.mem_append.mp member with before | last
          · exact locked_claim live other (locked other before) place row row sees same
          · cases List.mem_singleton.mp last
            exact here

theorem reseal_row_meets (law : Law Place PreparedRow Deed) (settled : List Done) (drawn : Place → Draw) (rows : List PreparedRow) (row : PreparedRow)
    (member : row ∈ rows) (live : Stage) (resealing : Resealing settled clock.transaction live) (locked : ∀ row ∈ rows, Locked live row) :
    Meets anything law (resealRow store drawn row)
      (Keeps (fun after => Resealing settled clock.transaction after ∧ ∀ row ∈ rows, Locked after row) fun after => after.settled = settled)
      live := by
  unfold resealRow
  apply meets_bind
  apply meets_lift
  rw [Keyring.resealBatch]
  cases opened : store.keyring.openEnvelope (batchAssociatedData row.tenant row.id row.actor) row.envelope with
  | error error => exact resealing.settled
  | ok batch =>
      simp only [seal_envelope_of, Except.mapError, Follows]
      apply meets_bind
      apply meets_statement
      · exact resealing.settled
      · exact meets_done _ _ _ _ _ ⟨resealing, locked⟩
      · intro current _ _ sees
        apply meets_done
        obtain ⟨old, now, claimed, first, last⟩ := locked row member
        have seen := sees _ _ claimed
        cases seen
        have same : SameBatch current (current.holding
            (store.keyring.envelopeOf (drawn row.address) (batchAssociatedData row.tenant row.id row.actor) batch)) := by
          refine ⟨rfl, ?_⟩
          intro aad plaintext
          rw [← last.2 aad plaintext, first.2 aad plaintext]
          exact reseal_content store.keyring _ _ _ _ opened store.keyring aad plaintext
        refine ⟨resealing_claim settled _ live resealing row.address current _ sees same, ?_⟩
        intro other inside
        exact locked_claim live other (locked other inside) row.address current _ sees same

theorem reseal_batches_meets (settled : List Done) (drawn : Place → Draw) (visited : List Place) :
    Meets anything (law platform (.rewrapAll store clock drawn visited)) (resealBatches store clock drawn visited)
      (Left settled fun _ what => what.notes = [])
      (Phase.closed settled) := by
  apply meets_transaction
  apply meets_bind
  apply meets_mono _ _ _ _ _ _ _ (meets_each _ _ _ _ (fun _ => Purging settled clock.transaction) (fun live => live.settled = settled) visited
    (fun _ place live _ purging => meets_expire live _ settled _ _ place purging) [] (purging_start settled _))
  intro ended live kept
  cases ended with
  | error error => exact kept
  | ok done =>
      apply meets_bind
      apply meets_mono _ _ _ _ _ _ _ (lock_stale_meets store clock _ settled visited [] live
        (purging_resealing settled _ live kept) fun _ member => by cases member)
      intro ended after scanned
      cases ended with
      | error error => exact scanned
      | ok rows =>
          obtain ⟨resealing, locked⟩ := scanned
          apply meets_mono _ _ _ _ _ _ _ (meets_each _ _ _ _
            (fun _ stage => Resealing settled clock.transaction stage ∧ ∀ row ∈ rows, Locked stage row) (fun stage => stage.settled = settled) rows
            (fun _ row stage member both => reseal_row_meets store clock _ settled drawn rows row member stage both.1 both.2)
            [] ⟨resealing, locked⟩)
          intro ended last kept
          cases ended with
          | error error => exact kept
          | ok done => exact ⟨kept.1.settled, resealing_lawful platform store clock settled drawn visited last kept.1, kept.1.notes⟩

theorem rewrap_all_meets (drawn : Place → Draw) (visited : List Place) :
    Meets anything (law platform (.rewrapAll store clock drawn visited)) (rewrapAll store clock drawn visited)
      (fun ended live => (Task.rewrapAll store clock drawn visited).Ends ended live.settled) Phase.start := by
  unfold rewrapAll
  apply meets_bind
  have rewrapped : Meets anything (law platform (.rewrapAll store clock drawn visited)) (atomically unavailable (deed .rewrap))
      (Left [] fun _ what => what.notes = [.rewrap]) (Phase.closed []) := by
    apply meets_transaction
    apply meets_deed
    · intro error
      exact rfl
    · refine ⟨rfl, ?_, rfl⟩
      intro before _
      exact .rewraps rfl fun _ => rfl
  apply meets_mono _ _ _ _ _ _ _ rewrapped
  intro ended live left
  cases ended with
  | error error =>
      rw [show live = _ from left]
      exact fun _ member => by cases member
  | ok done =>
      obtain ⟨what, rfl, noted⟩ := left
      apply meets_mono _ _ _ _ _ _ _ (reseal_batches_meets platform store clock [what] drawn visited)
      intro ended live left
      cases ended with
      | error error =>
          rw [show live = _ from left]
          intro other member
          cases List.mem_singleton.mp member
          exact .inr noted
      | ok done =>
          obtain ⟨resealed, rfl, silent⟩ := left
          intro other member
          rcases List.mem_append.mp member with first | last
          · cases List.mem_singleton.mp first
            exact .inr noted
          · cases List.mem_singleton.mp last
            exact .inl silent

end Reseals

theorem task_meets (platform : Platform) (task : Task) :
    Meets anything (law platform task) (task.program platform) (fun ended live => task.Ends ended live.settled) Phase.start := by
  cases task with
  | prepare store clock drawn visited tenant transaction mutations actor =>
      exact prepare_meets platform store clock drawn visited tenant transaction mutations actor
  | commit store clock visited tenant transaction => exact commit_meets platform store clock visited tenant transaction
  | abort store clock tenant transaction => exact abort_meets platform store clock tenant transaction
  | rewrapAll store clock drawn visited => exact rewrap_all_meets platform store clock drawn visited

abbrev Database : Type := Machine Place PreparedRow Deed StoreError StoreError Unit

def Database.start (platform : Platform) (tasks : Nat → Task) (rows : Rows) : Database :=
  Machine.start rows fun process => (tasks process).program platform

theorem batches_running (platform : Platform) (tasks : Nat → Task) (rows : Rows) (events : List (Event StoreError)) :
    Running anything rows (fun process => law platform (tasks process)) (fun process ended live => (tasks process).Ends ended live.settled)
      ((Database.start platform tasks rows).run events) :=
  run_accounted anything rows _ _ (fun _ _ _ _ _ _ _ _ _ => trivial) (fun _ => trivial) (fun _ => trivial) _
    (fun process => task_meets platform (tasks process)) events fun _ _ _ => trivial

end BatchCalls
end Secrets
