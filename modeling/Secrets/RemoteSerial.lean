import Secrets.RemoteRename

set_option autoImplicit false

namespace Secrets

open Effects Effects.Tx Programs Tables Storage
open Framing (Bytes)

-- What a run keeps of each thread.
structure Steady (custody : Custody) (state : Serving) (thread : Underway) : Prop where
  kept : Kept custody.service.platform state.world
  own : thread.prog.Asks fun sent => OfSession thread.tag sent.call
  stage : Stage custody state.world thread.tag thread.prog

section Run
variable (custody : Custody) (reads : custody.extractors.Reads)

theorem opening_steady (errands : List Errand) (state : Serving) (kept : Kept custody.service.platform state.world) :
    (opening errands state).Everywhere (Steady custody) := by
  intro thread member
  obtain ⟨errand, _, rfl⟩ := List.mem_map.mp member
  exact ⟨kept, start_asks errand, .waiting errand⟩

theorem stepped_stage (errand : Errand) (before after : World) (prog : Ending) (turned : Stepped custody errand before after prog) :
    Stage custody after errand prog := by
  cases turned with
  | goes _ _ stage => exact stage
  | settles _ _ _ stage => exact stage

theorem drawn_apart (pool : Clients) (distinct : (pool.threads.map fun thread => thread.tag.transaction).Nodup) (first second : Nat)
    (one other : Underway) (here : pool.threads[first]? = some one) (there : pool.threads[second]? = some other)
    (same : one.tag.transaction = other.tag.transaction) : first = second := by
  have drawn : (pool.threads.map fun thread => thread.tag.transaction)[first]? = some one.tag.transaction := by
    rw [List.getElem?_map, here]
    rfl
  have drawn' : (pool.threads.map fun thread => thread.tag.transaction)[second]? = some other.tag.transaction := by
    rw [List.getElem?_map, there]
    rfl
  refine (List.getElem?_inj (List.getElem?_eq_some_iff.mp drawn).1 distinct).mp ?_
  rw [drawn, drawn', same]

include reads

theorem turn_steady (pool : Clients) (index : Nat) (distinct : (pool.threads.map fun thread => thread.tag.transaction).Nodup)
    (undisturbed : custody.Undisturbed pool index) (steady : pool.Everywhere (Steady custody)) :
    (pool.turn custody.answer index).Everywhere (Steady custody) := by
  refine Pool.turn_everywhere custody.answer (Steady custody) pool index ?_ ?_ steady
  · intro thread sent next found asks place other elsewhere there held
    have mine := steady thread (List.mem_of_getElem? found)
    obtain ⟨tag, past, prog⟩ := thread
    cases (show prog = .ask sent next from asks)
    have whole := Pool.turn_ask custody.answer pool index tag past sent next found
    refine ⟨kept_send custody sent.token sent.call pool.shared held.kept, held.own, ?_⟩
    refine stage_borne custody other.tag pool.shared.world _ other.prog
      (send_settles custody sent.token reads sent.call mine.own.1.1 pool.shared (kept_keyed _ _ held.kept)) ?_ ?_ held.stage
    · intro tenant
      apply send_fewer custody sent.token reads sent.call mine.own.1.1 pool.shared
      intro same
      exact elsewhere (drawn_apart pool distinct place index other ⟨tag, past, .ask sent next⟩ there found (mine.own.1.2 _ same))
    · intro target newName later following renames asked
      have bears := (undisturbed place other target newName later following there renames asked).1 elsewhere
      rw [whole] at bears
      exact bears
  · intro tag past sent next found held
    refine ⟨kept_send custody sent.token sent.call pool.shared held.kept, held.own.2 _, ?_⟩
    rcases stage_turn custody reads tag pool.shared held.kept sent next held.stage
      (fun target newName renames commits => (undisturbed index _ target newName sent next found renames rfl).2 rfl commits) with
      ⟨_, turned⟩ | ⟨error, _, stopped, _⟩
    · exact stepped_stage custody tag _ _ _ turned
    · dsimp only
      rw [stopped]
      exact .failed tag error

omit reads in
theorem turn_distinct (pool : Clients) (index : Nat) (distinct : (pool.threads.map fun thread => thread.tag.transaction).Nodup) :
    ((pool.turn custody.answer index).threads.map fun thread => thread.tag.transaction).Nodup := by
  have tags := congrArg (List.map Errand.transaction) (Pool.turn_tags custody.answer pool index)
  rw [List.map_map, List.map_map] at tags
  exact (congrArg List.Nodup tags).mpr distinct

end Run

-- An operation of a run, with what it came to.
structure Entry where
  place : Nat
  command : Command
  outcome : Except StorageError Completed

def Entry.done (entry : Entry) : Command × Except StorageError Completed := (entry.command, entry.outcome)

def Entry.Of (pool : Clients) (entry : Entry) : Prop :=
  ∃ thread, pool.threads[entry.place]? = some thread ∧ thread.tag.command = entry.command ∧ settled thread.prog = some entry.outcome

-- The operations that are settled are those of one order, each once.
def Ordered (custody : Custody) (start : World) (pool : Clients) : Prop :=
  ∃ order : List Entry, (order.map Entry.place).Nodup ∧ (∀ entry, entry ∈ order ↔ entry.Of pool) ∧
    InTurn custody start (order.map Entry.done) pool.shared.world

section Orders
variable (custody : Custody)

theorem start_explained (errand : Errand) (world : World) (outcome : Except StorageError Completed)
    (known : settled errand.start.prog = some outcome) : Explains custody errand.command world world outcome := by
  obtain ⟨token, transaction, command⟩ := errand
  cases command with
  | read target => cases known
  | write target value =>
      change settled (Errand.finish ⟨token, transaction, .write target value⟩ (Remote.write target value)) = _ at known
      rw [write_tells] at known
      split at known
      · cases known
      · cases known
        exact ⟨fun wrong => (by cases wrong), fun wrong => (by cases wrong), fun _ => rfl⟩
  | delete target => cases known
  | rename target newName => cases known
  | list scope => cases known

theorem in_turn_still (world : World) (entries : List Entry)
    (explained : ∀ entry ∈ entries, Explains custody entry.command world world entry.outcome) :
    InTurn custody world (entries.map Entry.done) world := by
  induction entries using List.reverseRecOn with
  | nil => exact .start _ _ fun _ => rfl
  | append_singleton past entry ih =>
      rw [List.map_append]
      exact .next _ world world _ entry.command entry.outcome _ (ih fun other member => explained other (by simp [member]))
        (explained entry (by simp)) fun _ => rfl

def entryOf (pair : Underway × Nat) : Option Entry :=
  (settled pair.1.prog).map fun outcome => ⟨pair.2, pair.1.tag.command, outcome⟩

theorem mem_entries (pool : Clients) (entry : Entry) : entry ∈ pool.threads.zipIdx.filterMap entryOf ↔ entry.Of pool := by
  simp only [List.mem_filterMap, entryOf, Option.map_eq_some_iff, Prod.exists, List.mem_zipIdx_iff_getElem?]
  constructor
  · rintro ⟨thread, place, there, outcome, known, rfl⟩
    exact ⟨thread, there, rfl, known⟩
  · obtain ⟨place, command, outcome⟩ := entry
    rintro ⟨thread, there, rfl, known⟩
    exact ⟨thread, place, there, outcome, known, rfl⟩

theorem entries_once (threads : List Underway) (first : Nat) :
    (((threads.zipIdx first).filterMap entryOf).map Entry.place).Nodup := by
  have listed : (((threads.zipIdx first).filterMap entryOf).map Entry.place).Sublist ((threads.zipIdx first).map Prod.snd) := by
    induction threads generalizing first with
    | nil => exact .slnil
    | cons thread rest ih =>
        rw [List.zipIdx_cons, List.filterMap_cons, List.map_cons]
        cases known : entryOf (thread, first) with
        | none => exact .cons _ (ih (first + 1))
        | some entry =>
            obtain ⟨_, _, rfl⟩ := Option.map_eq_some_iff.mp known
            exact .cons_cons _ (ih (first + 1))
  refine listed.nodup ?_
  rw [List.zipIdx_map_snd]
  exact List.nodup_range'

theorem opening_ordered (errands : List Errand) (state : Serving) : Ordered custody state.world (opening errands state) := by
  refine ⟨_, entries_once (opening errands state).threads 0, mem_entries (opening errands state), ?_⟩
  refine in_turn_still custody state.world _ fun entry member => ?_
  obtain ⟨thread, there, commanded, known⟩ := (mem_entries (opening errands state) entry).mp member
  obtain ⟨errand, _, rfl⟩ := List.mem_map.mp (List.mem_of_getElem? there)
  rw [← commanded]
  exact start_explained custody errand state.world entry.outcome known

theorem entry_turn (pool : Clients) (index : Nat) (tag : Errand) (past : List (Exchange Sent Sent.Answer)) (sent : Sent)
    (next : sent.Answer → Ending) (found : pool.threads[index]? = some ⟨tag, past, .ask sent next⟩) (entry : Entry) :
    entry.Of (pool.turn custody.answer index) ↔
      (entry.place = index ∧ tag.command = entry.command ∧
        settled (next (custody.answer sent pool.shared).1) = some entry.outcome) ∨
      (entry.place ≠ index ∧ entry.Of pool) := by
  have bound := (List.getElem?_eq_some_iff.mp found).1
  rw [Entry.Of, Pool.turn_ask custody.answer pool index tag past sent next found]
  dsimp only
  rw [List.getElem?_set]
  by_cases same : index = entry.place
  · rw [if_pos same, if_pos (same ▸ bound)]
    constructor
    · rintro ⟨thread, there, commanded, known⟩
      cases there
      exact .inl ⟨same.symm, commanded, known⟩
    · rintro (⟨_, commanded, known⟩ | ⟨apart, _⟩)
      · exact ⟨_, rfl, commanded, known⟩
      · exact absurd same.symm apart
  · rw [if_neg same]
    constructor
    · exact fun known => .inr ⟨fun here => same here.symm, known⟩
    · rintro (⟨here, _⟩ | ⟨_, known⟩)
      · exact absurd here.symm same
      · exact known

theorem entry_own (pool : Clients) (index : Nat) (tag : Errand) (past : List (Exchange Sent Sent.Answer)) (prog : Ending)
    (found : pool.threads[index]? = some ⟨tag, past, prog⟩) (entry : Entry) (here : entry.place = index) :
    entry.Of pool ↔ tag.command = entry.command ∧ settled prog = some entry.outcome := by
  rw [Entry.Of, here, found]
  constructor
  · rintro ⟨thread, there, commanded, known⟩
    cases there
    exact ⟨commanded, known⟩
  · rintro ⟨commanded, known⟩
    exact ⟨_, rfl, commanded, known⟩

variable (reads : custody.extractors.Reads)
include reads

theorem turn_ordered (start : World) (pool : Clients) (index : Nat) (undisturbed : custody.Undisturbed pool index)
    (steady : pool.Everywhere (Steady custody)) (ordered : Ordered custody start pool) :
    Ordered custody start (pool.turn custody.answer index) := by
  cases found : pool.threads[index]? with
  | none =>
      rw [Pool.turn, found]
      exact ordered
  | some thread =>
      obtain ⟨tag, past, prog⟩ := thread
      cases prog with
      | done value =>
          rw [Pool.turn, found]
          exact ordered
      | stop error =>
          rw [Pool.turn, found]
          exact ordered
      | ask sent next =>
          have mine := steady _ (List.mem_of_getElem? found)
          have tells := entry_turn custody pool index tag past sent next found
          have own := entry_own pool index tag past (.ask sent next) found
          have world : (pool.turn custody.answer index).shared.world = (custody.answer sent pool.shared).2.world := by
            rw [Pool.turn_ask custody.answer pool index tag past sent next found]
          obtain ⟨order, once, exact, inTurn⟩ := ordered
          rcases stage_turn custody reads tag pool.shared mine.kept sent next mine.stage
            (fun target newName renames commits => (undisturbed index _ target newName sent next found renames rfl).2 rfl commits) with
            ⟨unsettled, turned⟩ | ⟨error, known, stopped, same⟩
          · cases turned with
            | goes still same _ =>
                refine ⟨order, once, fun entry => (exact entry).trans ?_, world ▸ in_turn_unmoved custody _ _ _ _ inTurn same⟩
                rw [tells]
                by_cases here : entry.place = index
                · simp [own entry here, here, unsettled, still]
                · simp [here]
            | settles outcome known explains _ =>
                refine ⟨order ++ [⟨index, tag.command, outcome⟩], ?_, fun entry => ?_, ?_⟩
                · rw [List.map_append, List.nodup_append]
                  refine ⟨once, List.nodup_singleton _, fun place member other last => ?_⟩
                  obtain ⟨entry, inside, rfl⟩ := List.mem_map.mp member
                  cases List.mem_singleton.mp last
                  intro here
                  have settled := ((own entry here).mp ((exact entry).mp inside)).2
                  rw [unsettled] at settled
                  cases settled
                · rw [List.mem_append, List.mem_singleton, exact entry, tells]
                  by_cases here : entry.place = index
                  · obtain ⟨place, command, comes⟩ := entry
                    cases here
                    rw [own _ rfl, unsettled, known]
                    simp [eq_comm]
                  · have other : entry ≠ ⟨index, tag.command, outcome⟩ := fun same => here (congrArg Entry.place same)
                    simp [here, other]
                · rw [List.map_append, world]
                  exact .next _ _ _ _ tag.command outcome _ inTurn explains fun _ => rfl
          · refine ⟨order, once, fun entry => (exact entry).trans ?_, world ▸ in_turn_unmoved custody _ _ _ _ inTurn same⟩
            have told : settled (.stop error) = some (.error error) := rfl
            rw [tells, stopped, told]
            by_cases here : entry.place = index
            · simp [own entry here, here, known]
            · simp [here]

theorem turns_ordered (start : World) (schedule : List Nat) (pool : Clients)
    (distinct : (pool.threads.map fun thread => thread.tag.transaction).Nodup) (undisturbed : custody.AllUndisturbed pool schedule)
    (steady : pool.Everywhere (Steady custody)) (ordered : Ordered custody start pool) :
    Ordered custody start (pool.turns custody.answer schedule) := by
  induction schedule generalizing pool with
  | nil => exact ordered
  | cons index rest ih =>
      exact ih (pool.turn custody.answer index) (turn_distinct custody pool index distinct) undisturbed.2
        (turn_steady custody reads pool index distinct undisturbed.1 steady)
        (turn_ordered custody reads start pool index undisturbed.1 steady ordered)

theorem turn_moved (pool : Clients) (index : Nat) (undisturbed : custody.Undisturbed pool index)
    (steady : pool.Everywhere (Steady custody)) (tag : Errand) (past : List (Exchange Sent Sent.Answer)) (sent : Sent)
    (next : sent.Answer → Ending) (found : pool.threads[index]? = some ⟨tag, past, .ask sent next⟩) (target : Target)
    (newName : SecretName) (renames : tag.command = .rename target newName) (completed : Completed)
    (ended : next (custody.answer sent pool.shared).1 = .done completed) :
    sent = ⟨tag.token, .commit target.address.scope.tenant.text tag.transaction⟩ ∧
      Moves custody.service.store target.address newName pool.shared.world (pool.turn custody.answer index).shared.world := by
  have mine := steady _ (List.mem_of_getElem? found)
  refine ⟨ends_commit custody tag _ target newName renames sent next mine.stage _ completed ended, ?_⟩
  rw [Pool.turn_ask custody.answer pool index tag past sent next found]
  rcases stage_turn custody reads tag pool.shared mine.kept sent next mine.stage
    (fun other otherName named commits => (undisturbed index _ other otherName sent next found named rfl).2 rfl commits) with
    ⟨_, turned⟩ | ⟨error, _, stopped, _⟩
  · cases turned with
    | goes unsettled _ _ =>
        rw [ended] at unsettled
        cases unsettled
    | settles outcome known explains _ =>
        rw [ended] at known
        cases known
        obtain ⟨answer, _, does⟩ := explains
        obtain ⟨token, transaction, command⟩ := tag
        cases (show command = .rename target newName from renames)
        exact does
  · rw [ended] at stopped
    cases stopped

theorem turns_moved (schedule : List Nat) (pool : Clients) (distinct : (pool.threads.map fun thread => thread.tag.transaction).Nodup)
    (steady : pool.Everywhere (Steady custody)) (undisturbed : custody.AllUndisturbed pool schedule) (place : Nat) (thread : Underway)
    (target : Target) (newName : SecretName) (completed : Completed)
    (found : (pool.turns custody.answer schedule).threads[place]? = some thread)
    (renames : thread.tag.command = .rename target newName) (ended : thread.prog = .done completed) :
    (∃ past, pool.threads[place]? = some ⟨thread.tag, past, .done completed⟩) ∨
    ∃ before rest past next, schedule = before ++ place :: rest ∧
      (pool.turns custody.answer before).threads[place]? = some ⟨thread.tag, past,
        .ask ⟨thread.tag.token, .commit target.address.scope.tenant.text thread.tag.transaction⟩ next⟩ ∧
      Moves custody.service.store target.address newName (pool.turns custody.answer before).shared.world
        (pool.turns custody.answer (before ++ [place])).shared.world := by
  induction schedule generalizing pool with
  | nil =>
      obtain ⟨tag, past, prog⟩ := thread
      cases ended
      exact .inl ⟨past, found⟩
  | cons index rest ih =>
      have kept := turn_steady custody reads pool index distinct undisturbed.1 steady
      rcases ih (pool.turn custody.answer index) (turn_distinct custody pool index distinct) kept undisturbed.2 found with
        ⟨past, there⟩ | ⟨before, later, past, next, rfl, there, moved⟩
      · cases turning : pool.threads[index]? with
        | none =>
            rw [Pool.turn, turning] at there
            exact .inl ⟨past, there⟩
        | some mover =>
            obtain ⟨tag, earlier, prog⟩ := mover
            cases prog with
            | done value =>
                rw [Pool.turn, turning] at there
                exact .inl ⟨past, there⟩
            | stop error =>
                rw [Pool.turn, turning] at there
                exact .inl ⟨past, there⟩
            | ask sent next =>
                have whole := Pool.turn_ask custody.answer pool index tag earlier sent next turning
                by_cases same : index = place
                · subst same
                  have bound := (List.getElem?_eq_some_iff.mp turning).1
                  rw [whole, List.getElem?_set, if_pos rfl, if_pos bound] at there
                  simp only [Option.some.injEq, Thread.mk.injEq] at there
                  obtain ⟨rfl, _, done⟩ := there
                  obtain ⟨committing, moved⟩ := turn_moved custody reads pool index undisturbed.1 steady thread.tag earlier sent next
                    turning target newName renames completed done
                  subst committing
                  exact .inr ⟨[], rest, earlier, next, rfl, turning, moved⟩
                · rw [whole, List.getElem?_set, if_neg same] at there
                  exact .inl ⟨past, there⟩
      · exact .inr ⟨index :: before, later, past, next, rfl, there, moved⟩

end Orders

-- What clients rely on: a rename that returned well moved, at the turn its commit
-- was served, the value the source held there, and the operations are explained
-- by an order in which they are done one after another.
structure Serial (custody : Custody) (errands : List Errand) (state : Serving) (schedule : List Nat) : Prop where
  moved : ∀ (place : Nat) (thread : Underway) (target : Target) (newName : SecretName) (completed : Completed),
    ((opening errands state).turns custody.answer schedule).threads[place]? = some thread →
    thread.tag.command = .rename target newName → thread.prog = .done completed →
    ∃ before rest past next, schedule = before ++ place :: rest ∧
      ((opening errands state).turns custody.answer before).threads[place]? = some ⟨thread.tag, past,
        .ask ⟨thread.tag.token, .commit target.address.scope.tenant.text thread.tag.transaction⟩ next⟩ ∧
      Moves custody.service.store target.address newName ((opening errands state).turns custody.answer before).shared.world
        ((opening errands state).turns custody.answer (before ++ [place])).shared.world
  ordered : Ordered custody state.world ((opening errands state).turns custody.answer schedule)

/-- In a run in which every other client bears with a rename under way, no rename loses a
value, and what the operations were answered is explained by doing them one after
another. -/
theorem renames_serial (custody : Custody) (reads : custody.extractors.Reads) (errands : List Errand)
    (distinct : (errands.map Errand.transaction).Nodup) (state : Serving) (kept : Kept custody.service.platform state.world)
    (schedule : List Nat) (undisturbed : custody.AllUndisturbed (opening errands state) schedule) :
    Serial custody errands state schedule := by
  have drawn : ((opening errands state).threads.map fun thread => thread.tag.transaction) = errands.map Errand.transaction := by
    simp [opening, Errand.start]
  have steady := opening_steady custody errands state kept
  constructor
  · intro place thread target newName completed found renames ended
    rcases turns_moved custody reads schedule (opening errands state) (drawn ▸ distinct) steady undisturbed place thread target newName
      completed found renames ended with ⟨past, there⟩ | moved
    · obtain ⟨errand, _, same⟩ := List.mem_map.mp (List.mem_of_getElem? there)
      obtain ⟨token, transaction, command⟩ := errand
      simp only [Errand.start, Thread.mk.injEq] at same
      obtain ⟨tagged, _, started⟩ := same
      rw [← tagged] at renames
      cases (show command = .rename target newName from renames)
      cases started
    · exact moved
  · exact turns_ordered custody reads state.world schedule (opening errands state) (drawn ▸ distinct) undisturbed steady
      (opening_ordered custody errands state)

def Underway.returned (thread : Underway) : Bool :=
  match thread.prog with
  | .done _ => true
  | .stop _ => false
  | .ask _ _ => false

theorem returned_thread (custody : Custody) (errands : List Errand) (state : Serving) (schedule : List Nat) (place : Nat)
    (errand : Errand) (there : errands[place]? = some errand)
    (returned : (((opening errands state).turns custody.answer schedule).threads[place]?.any Underway.returned) = true) :
    ∃ past completed, ((opening errands state).turns custody.answer schedule).threads[place]? =
      some ⟨errand, past, .done completed⟩ := by
  have tags := Pool.turns_tags custody.answer (opening errands state) schedule
  have own : (opening errands state).threads.map Thread.tag = errands := by
    simp [opening, Errand.start, Function.comp_def]
  cases found : ((opening errands state).turns custody.answer schedule).threads[place]? with
  | none =>
      rw [found] at returned
      cases returned
  | some thread =>
      rw [found, Option.any_some] at returned
      obtain ⟨tag, past, prog⟩ := thread
      have tagged : some tag = some errand := by
        rw [← there, ← own, ← tags, List.getElem?_map, found]
        rfl
      cases tagged
      cases prog with
      | done completed => exact ⟨past, completed, rfl⟩
      | stop error => cases returned
      | ask sent next => cases returned

namespace Sample

def newer : SecretValue := ⟨[9], by decide⟩

def moving : Errand := ⟨"token", transaction, .rename held work⟩

def rewriting : Errand := ⟨"other", Vector.replicate 16 7, .write held newer⟩

def stored : Serving := custody.after writing

def losing (schedule : List Nat) : Clients := (opening [moving, rewriting] stored).turns custody.answer schedule

end Sample

theorem rename_loses_write : ¬ ∀ (custody : Custody) (_ : custody.extractors.Reads) (errands : List Errand)
    (_ : (errands.map Errand.transaction).Nodup) (state : Serving) (_ : Kept custody.service.platform state.world) (schedule : List Nat),
    Serial custody errands state schedule := by
  intro claim
  obtain ⟨past, completed, found⟩ := returned_thread Sample.custody [Sample.moving, Sample.rewriting] Sample.stored [0, 0, 1, 0, 0] 0
    Sample.moving rfl (by decide +kernel)
  obtain ⟨before, rest, _, _, whole, _, moved⟩ := (claim Sample.custody wire_reads [Sample.moving, Sample.rewriting] (by decide)
    Sample.stored (kept_after Sample.custody Sample.writing) [0, 0, 1, 0, 0]).moved 0 _ Sample.held Sample.work completed found rfl rfl
  have first : before = [0, 0, 1, 0, 0].take before.length := by
    rw [whole, List.take_left']
    rfl
  have short : before.length < 5 := by
    have lengths := congrArg List.length whole
    simp only [List.length_cons, List.length_nil, List.length_append] at lengths
    omega
  -- Until the last turn the source is still there.
  have there : ∀ length < 4, ((Sample.losing ([0, 0, 1, 0, 0].take length ++ [0])).shared.world.secrets.find
      (Remote.reference Sample.held.address)).isSome = true := by decide +kernel
  have replaced : Sample.custody.service.store.holds (Sample.losing [0, 0, 1, 0]).shared.world
      (Remote.reference Sample.held.address) = some [9] := by decide +kernel
  have placed : Sample.custody.service.store.holds (Sample.losing ([0, 0, 1, 0] ++ [0])).shared.world
      (Remote.reference (Sample.held.address.renamed Sample.work)) = some [1, 2, 3] := by decide +kernel
  by_cases last : before.length = 4
  · rw [last, show [0, 0, 1, 0, 0].take 4 = [0, 0, 1, 0] from rfl] at first
    subst first
    obtain ⟨value, held, moved⟩ := moved.value
    rw [Sample.losing, held] at replaced
    rw [Sample.losing, moved] at placed
    cases replaced
    cases placed
  · have gone := moved.gone
    rw [first] at gone
    have still := there before.length (by omega)
    rw [Sample.losing, gone] at still
    cases still

def Underway.committing (thread : Underway) : Bool :=
  match thread.prog with
  | .ask ⟨_, .commit _ _⟩ _ => true
  | _ => false

theorem committing_ask (tag : Errand) (past : List (Exchange Sent Sent.Answer)) (sent : Sent) (next : sent.Answer → Ending)
    (commits : sent.call.Commits) : Underway.committing ⟨tag, past, .ask sent next⟩ = true := by
  obtain ⟨token, call⟩ := sent
  cases call <;> first | rfl | exact commits.elim

theorem undisturbed_next (custody : Custody) (pool : Clients) (before : List Nat) (index : Nat) (rest : List Nat)
    (here : custody.Undisturbed (pool.turns custody.answer before) index)
    (later : custody.AllUndisturbed (pool.turns custody.answer (before ++ [index])) rest) :
    custody.AllUndisturbed (pool.turns custody.answer before) (index :: rest) := by
  refine ⟨here, ?_⟩
  rw [Pool.turns, List.foldl_append] at later
  exact later

theorem undisturbed_by (custody : Custody) (pool : Clients) (index : Nat) (errand : Errand) (target : Target) (newName : SecretName)
    (moves : errand.command = .rename target newName)
    (lone : ∀ (place : Nat) (thread : Underway) (target : Target) (newName : SecretName), pool.threads[place]? = some thread →
      thread.tag.command = .rename target newName → place = 0 ∧ thread.tag = errand)
    (others : index ≠ 0 →
      custody.service.store.holds (pool.turn custody.answer index).shared.world (Remote.reference target.address) =
        custody.service.store.holds pool.shared.world (Remote.reference target.address) ∧
      (pool.turn custody.answer index).shared.world.secrets.find (Remote.reference (target.address.renamed newName)) = none)
    (own : index = 0 → (pool.threads[0]?.any Underway.committing) = true →
      ((pool.shared.world.prepared.find (target.address.scope.tenant.text, errand.transaction)).any fun row =>
        decide ((custody.service.clocks (pool.shared.calls + 1)).transaction < row.expiresAt)) = true) :
    custody.Undisturbed pool index := by
  intro place thread other otherName sent next there renames asks
  obtain ⟨first, tagged⟩ := lone place thread other otherName there renames
  subst first
  obtain ⟨tag, past, prog⟩ := thread
  cases (show tag = errand from tagged)
  cases moves.symm.trans renames
  refine ⟨fun elsewhere => ?_, fun same commits _ => ?_⟩
  · obtain ⟨same, vacant⟩ := others (Ne.symm elsewhere)
    refine ⟨fun _ => same, fun _ value held => same.symm.trans held, fun _ _ taken => ?_⟩
    obtain ⟨row, found, _⟩ := taken
    rw [vacant] at found
    cases found
  · cases (show prog = .ask sent next from asks)
    have live := own same.symm (by rw [there]; exact committing_ask _ past sent next commits)
    cases found : pool.shared.world.prepared.find (target.address.scope.tenant.text, errand.transaction) with
    | none =>
        rw [found] at live
        cases live
    | some row =>
        rw [found, Option.any_some] at live
        exact ⟨row, rfl, of_decide_eq_true live⟩

namespace Sample

def spare : SecretName := ⟨"spare", by decide +kernel⟩

def beside : Errand := ⟨"other", Vector.replicate 16 7, .write (.unbound ⟨alice, spare⟩) newer⟩

def looking : Errand := ⟨"third", Vector.replicate 16 8, .read held⟩

def crowd : List Errand := [moving, beside, looking]

theorem crowd_lone (schedule : List Nat) (place : Nat) (thread : Underway) (target : Target) (newName : SecretName)
    (there : ((opening crowd stored).turns custody.answer schedule).threads[place]? = some thread)
    (renames : thread.tag.command = .rename target newName) : place = 0 ∧ thread.tag = moving := by
  have tags := Pool.turns_tags custody.answer (opening crowd stored) schedule
  have own : (opening crowd stored).threads.map Thread.tag = crowd := by
    simp [opening, Errand.start, Function.comp_def]
  have tagged : crowd[place]? = some thread.tag := by
    rw [← own, ← tags, List.getElem?_map, there]
    rfl
  rcases place with _ | _ | _ | place
  · exact ⟨rfl, (Option.some.inj tagged).symm⟩
  · rw [← Option.some.inj tagged] at renames
    cases renames
  · rw [← Option.some.inj tagged] at renames
    cases renames
  · cases tagged

theorem crowd_next (before : List Nat) (index : Nat) (rest : List Nat)
    (others : index ≠ 0 →
      custody.service.store.holds (((opening crowd stored).turns custody.answer before).turn custody.answer index).shared.world
          (Remote.reference held.address) =
        custody.service.store.holds ((opening crowd stored).turns custody.answer before).shared.world (Remote.reference held.address) ∧
      (((opening crowd stored).turns custody.answer before).turn custody.answer index).shared.world.secrets.find
        (Remote.reference (held.address.renamed work)) = none)
    (own : index = 0 → (((opening crowd stored).turns custody.answer before).threads[0]?.any Underway.committing) = true →
      ((((opening crowd stored).turns custody.answer before).shared.world.prepared.find ("t", transaction)).any fun row =>
        decide ((custody.service.clocks (((opening crowd stored).turns custody.answer before).shared.calls + 1)).transaction <
          row.expiresAt)) = true)
    (later : custody.AllUndisturbed ((opening crowd stored).turns custody.answer (before ++ [index])) rest) :
    custody.AllUndisturbed ((opening crowd stored).turns custody.answer before) (index :: rest) :=
  undisturbed_next custody (opening crowd stored) before index rest
    (undisturbed_by custody _ index moving held work rfl (crowd_lone before) others own) later

end Sample

theorem rename_among_others :
    Serial Sample.custody Sample.crowd Sample.stored [0, 1, 0, 2, 0, 0] ∧
      Sample.custody.service.store.holds ((opening Sample.crowd Sample.stored).turns Sample.custody.answer [0, 1, 0, 2, 0, 0]).shared.world
        (Remote.reference (Sample.held.address.renamed Sample.work)) = some [1, 2, 3] := by
  refine ⟨?_, by decide +kernel⟩
  refine renames_serial Sample.custody wire_reads Sample.crowd (by decide) Sample.stored (kept_after Sample.custody Sample.writing) _ ?_
  refine Sample.crowd_next [] 0 _ ?_ ?_ (Sample.crowd_next [0] 1 _ ?_ ?_ (Sample.crowd_next [0, 1] 0 _ ?_ ?_
    (Sample.crowd_next [0, 1, 0] 2 _ ?_ ?_ (Sample.crowd_next [0, 1, 0, 2] 0 _ ?_ ?_
      (Sample.crowd_next [0, 1, 0, 2, 0] 0 _ ?_ ?_ trivial)))))
  all_goals decide +kernel

end Secrets
