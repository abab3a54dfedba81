import Secrets.BatchRaces

set_option autoImplicit false

namespace Secrets

open Programs RowLocks
open Framing (Bytes)

namespace BatchCalls

theorem sealed_unique (platform : Platform) (row : PreparedRow) (expiry other : Int) (mutations list : List Mutation)
    (holds : Sealed platform row expiry mutations) (again : Sealed platform row other list) : other = expiry ∧ list = mutations := by
  obtain ⟨batch, json, content, split, decoded⟩ := holds
  obtain ⟨bytes, text, recontent, resplit, redecoded⟩ := again
  obtain ⟨_, rfl⟩ := content_unique _ _ _ _ _ content recontent
  cases split.symm.trans resplit
  cases decoded.symm.trans redecoded
  exact ⟨rfl, rfl⟩

theorem sealed_same (platform : Platform) (first row : PreparedRow) (same : SameBatch first row) (expiry : Int) (mutations : List Mutation) :
    Sealed platform first expiry mutations ↔ Sealed platform row expiry mutations := by
  obtain ⟨columns, content⟩ := same
  unfold Sealed
  rw [columns]
  constructor
  · intro holds
    obtain ⟨batch, json, sealedIn, rest⟩ := holds
    exact ⟨batch, json, (content _ _).mp sealedIn, rest⟩
  · intro holds
    obtain ⟨batch, json, sealedIn, rest⟩ := holds
    exact ⟨batch, json, (content _ _).mpr sealedIn, rest⟩

section Traces
variable (platform : Platform) (tasks : Nat → Task) (rows : Rows)

abbrev Trace : Type := List (Nat × Done)

def Undisturbed (trace : Trace) (place : Place) : Prop :=
  ∀ entry ∈ trace, entry.2.rows place = none ∨
    ∃ new store clock drawn visited, entry.2.rows place = some (some new) ∧ tasks entry.1 = .rewrapAll store clock drawn visited

-- The batch that a place holds: there from the start, or prepared by a call since,
-- and neither taken nor prepared again after that.
inductive Standing (before : Trace) (place : Place) (row : PreparedRow) (mutations : List Mutation) : Prop where
  | started (first : PreparedRow) (held : rows place = some first) (same : SameBatch first row)
      (since : Undisturbed tasks before place)
  | prepared (earlier later : Trace) (process : Nat) (put : Done) (first : PreparedRow) (store : PostgresStore) (clock : Clock)
      (drawn : Draw) (visited : List Place) (actor : String) (split : before = earlier ++ (process, put) :: later)
      (called : tasks process = .prepare store clock drawn visited place.1 place.2 mutations actor)
      (rows : put.rows = only place (some first)) (same : SameBatch first row) (named : row.actor = actor)
      (since : Undisturbed tasks later place)

inductive Consumed (task : Task) (place : Place) (row : PreparedRow) (mutations : List Mutation) (what : Done) : Prop where
  | applied (store : PostgresStore) (clock : Clock) (visited : List Place) (expiry : Int)
      (called : task = .commit store clock visited place.1 place.2) (notes : what.notes = applying row.actor mutations)
      (live : clock.transaction < row.expiresAt) (sealedLive : clock.transaction < expiry * 1000000)
      (holds : Sealed platform row expiry mutations)
  | aborted (store : PostgresStore) (clock : Clock) (called : task = .abort store clock place.1 place.2) (notes : what.notes = [])
  | expired (notes : what.notes = []) (passed : row.expiresAt ≤ task.clock.statement ∨ row.expiresAt ≤ task.clock.transaction)
  | lapsed (store : PostgresStore) (clock : Clock) (visited : List Place) (expiry : Int) (batch json : Bytes)
      (called : task = .commit store clock visited place.1 place.2) (notes : what.notes = [])
      (content : Content row.envelope (batchAssociatedData row.tenant row.id row.actor) batch)
      (split : splitExpiry batch = some (expiry, json)) (passed : expiry * 1000000 ≤ clock.transaction)

def LawfulTrace (trace : Trace) : Prop :=
  ∀ before process what after, trace = before ++ (process, what) :: after → Lawful platform (tasks process) (held rows before) what

theorem lawful_snoc (trace : Trace) (process : Nat) (what : Done) (lawful : LawfulTrace platform tasks rows (trace ++ [(process, what)])) :
    LawfulTrace platform tasks rows trace ∧ Lawful platform (tasks process) (held rows trace) what := by
  constructor
  · intro before other done after split
    apply lawful before other done (after ++ [(process, what)])
    rw [split, List.append_assoc, List.cons_append]
  · exact lawful trace process what [] rfl

theorem lawful_leaves (task : Task) (before : Rows) (what : Done) (lawful : Lawful platform task before what) (place : Place)
    (row : PreparedRow) (left : what.rows place = some (some row)) :
    (∃ store clock drawn visited mutations actor, task = .prepare store clock drawn visited place.1 place.2 mutations actor ∧
      what.rows = only place (some row) ∧ row.actor = actor ∧ Sealed platform row (prepareExpiry store clock) mutations ∧
      before place = none) ∨
    ∃ store clock drawn visited old, task = .rewrapAll store clock drawn visited ∧ before place = some old ∧ SameBatch old row := by
  cases lawful with
  | idles notes untouched => cases (untouched place).symm.trans left
  | rewraps notes untouched => cases (untouched place).symm.trans left
  | purges notes gone => cases (gone place _ left).1
  | prepares store clock drawn visited tenant transaction mutations actor put called notes changed free placed named expires holds =>
      rw [changed] at left
      obtain ⟨rfl, same⟩ := only_some _ _ _ _ left
      cases same
      exact .inl ⟨store, clock, drawn, visited, mutations, actor, called, changed, named, holds, free⟩
  | applies store clock visited tenant transaction old expiry mutations called notes changed =>
      rw [changed] at left
      cases (only_some _ _ _ _ left).2
  | lapses store clock visited tenant transaction old expiry batch json called notes changed =>
      rw [changed] at left
      cases (only_some _ _ _ _ left).2
  | aborts store clock tenant transaction old called notes changed =>
      rw [changed] at left
      cases (only_some _ _ _ _ left).2
  | reseals store clock drawn visited called notes kept =>
      obtain ⟨old, was, gone | ⟨new, now, same⟩⟩ := kept place _ left
      · cases gone.1
      · cases now
        exact .inr ⟨store, clock, drawn, visited, old, called, was, same⟩

theorem lawful_removes (task : Task) (before : Rows) (what : Done) (lawful : Lawful platform task before what) (place : Place)
    (removed : what.rows place = some none) :
    ∃ row, before place = some row ∧ ((∃ expiry mutations, Sealed platform row expiry mutations ∧
        Consumed platform task place row mutations what) ∨ ∀ mutations, Consumed platform task place row mutations what) := by
  cases lawful with
  | idles notes untouched => cases (untouched place).symm.trans removed
  | rewraps notes untouched => cases (untouched place).symm.trans removed
  | purges notes gone =>
      obtain ⟨_, old, was, expired⟩ := gone place _ removed
      exact ⟨old, was, .inr fun _ => .expired notes (.inl expired)⟩
  | prepares store clock drawn visited tenant transaction mutations actor put called notes changed =>
      rw [changed] at removed
      cases (only_some _ _ _ _ removed).2
  | applies store clock visited tenant transaction row expiry mutations called notes changed found live sealedLive holds =>
      rw [changed] at removed
      obtain ⟨rfl, _⟩ := only_some _ _ _ _ removed
      exact ⟨row, found, .inl ⟨expiry, mutations, holds, .applied store clock visited expiry called notes live sealedLive holds⟩⟩
  | lapses store clock visited tenant transaction row expiry batch json called notes changed found content split passed =>
      rw [changed] at removed
      obtain ⟨rfl, _⟩ := only_some _ _ _ _ removed
      exact ⟨row, found, .inr fun _ => .lapsed store clock visited expiry batch json called notes content split passed⟩
  | aborts store clock tenant transaction row called notes changed found =>
      rw [changed] at removed
      obtain ⟨rfl, _⟩ := only_some _ _ _ _ removed
      exact ⟨row, found, .inr fun _ => .aborted store clock called notes⟩
  | reseals store clock drawn visited called notes kept =>
      obtain ⟨old, was, gone | ⟨new, now, same⟩⟩ := kept place _ removed
      · refine ⟨old, was, .inr fun _ => .expired notes (.inr ?_)⟩
        rw [called]
        exact gone.2
      · cases now

theorem undisturbed_snoc (trace : Trace) (place : Place) (undisturbed : Undisturbed tasks trace place) (process : Nat) (what : Done)
    (last : what.rows place = none ∨ ∃ new store clock drawn visited, what.rows place = some (some new) ∧
      tasks process = .rewrapAll store clock drawn visited) : Undisturbed tasks (trace ++ [(process, what)]) place := by
  intro entry member
  rcases List.mem_append.mp member with inside | here
  · exact undisturbed entry inside
  · cases List.mem_singleton.mp here
    exact last

theorem standing_snoc (trace : Trace) (place : Place) (row later : PreparedRow) (mutations : List Mutation)
    (standing : Standing tasks rows trace place row mutations) (same : SameBatch row later) (process : Nat) (what : Done)
    (last : what.rows place = none ∨ ∃ new store clock drawn visited, what.rows place = some (some new) ∧
      tasks process = .rewrapAll store clock drawn visited) :
    Standing tasks rows (trace ++ [(process, what)]) place later mutations := by
  cases standing with
  | started first held kept since =>
      exact .started first held (same_batch_trans _ _ _ kept same) (undisturbed_snoc tasks trace place since process what last)
  | prepared earlier after other put first store clock drawn visited actor split called changed kept named since =>
      apply Standing.prepared earlier (after ++ [(process, what)]) other put first store clock drawn visited actor _ called changed
        (same_batch_trans _ _ _ kept same) _ (undisturbed_snoc tasks after place since process what last)
      · rw [split, List.append_assoc, List.cons_append]
      · rw [same.1]
        exact named

theorem held_standing (trace : Trace) (lawful : LawfulTrace platform tasks rows trace) (place : Place) (row : PreparedRow)
    (found : held rows trace place = some row) :
    (∃ mutations, Standing tasks rows trace place row mutations) ∧
      ∀ expiry mutations, Sealed platform row expiry mutations → Standing tasks rows trace place row mutations := by
  induction trace using List.reverseRecOn generalizing row with
  | nil =>
      have start : ∀ mutations, Standing tasks rows [] place row mutations :=
        fun _ => .started row found (same_batch_refl row) fun _ member => by cases member
      exact ⟨⟨[], start []⟩, fun _ mutations _ => start mutations⟩
  | append_singleton trace entry ih =>
      obtain ⟨process, what⟩ := entry
      obtain ⟨before, last⟩ := lawful_snoc platform tasks rows trace process what lawful
      rw [held_snoc] at found
      cases changed : what.rows place with
      | none =>
          rw [changed] at found
          obtain ⟨⟨mutations, some⟩, every⟩ := ih before row found
          have stays : ∀ mutations, Standing tasks rows trace place row mutations →
              Standing tasks rows (trace ++ [(process, what)]) place row mutations :=
            fun mutations standing => standing_snoc tasks rows trace place row row mutations standing (same_batch_refl row) process what
              (.inl changed)
          exact ⟨⟨mutations, stays mutations some⟩, fun expiry mutations holds => stays mutations (every expiry mutations holds)⟩
      | some now =>
          rw [changed] at found
          have here : what.rows place = some (some row) := by rw [changed, show now = some row from found]
          rcases lawful_leaves platform (tasks process) (held rows trace) what last place row here with
            ⟨store, clock, drawn, visited, mutations, actor, called, left, named, holds, _⟩ |
            ⟨store, clock, drawn, visited, old, called, was, same⟩
          · have standing : Standing tasks rows (trace ++ [(process, what)]) place row mutations :=
              .prepared trace [] process what row store clock drawn visited actor rfl called left (same_batch_refl row) named
                fun _ member => by cases member
            refine ⟨⟨mutations, standing⟩, ?_⟩
            intro expiry list again
            rw [(sealed_unique platform row _ _ _ _ holds again).2]
            exact standing
          · obtain ⟨⟨mutations, some⟩, every⟩ := ih before old was
            have stays : ∀ mutations, Standing tasks rows trace place old mutations →
                Standing tasks rows (trace ++ [(process, what)]) place row mutations :=
              fun mutations standing => standing_snoc tasks rows trace place old row mutations standing same process what
                (.inr ⟨row, store, clock, drawn, visited, here, called⟩)
            refine ⟨⟨mutations, stays mutations some⟩, ?_⟩
            intro expiry mutations holds
            exact stays mutations (every expiry mutations ((sealed_same platform old row same expiry mutations).mpr holds))

-- What the batch calls leave, however their statements interleave: a removed row
-- was a batch standing there, taken in one of the four ways; mutations are applied
-- by a commit that takes the batch that holds them; and a prepare, commit or abort
-- that has returned did what it answered in one transaction (a rewrap_all takes two).
structure Lifecycle (machine : Database) : Prop where
  kept : ∀ place, machine.committed place = held rows machine.trace place
  consumed : ∀ before process what after, machine.trace = before ++ (process, what) :: after → ∀ place, what.rows place = some none →
    ∃ row mutations, held rows before place = some row ∧ Standing tasks rows before place row mutations ∧
      Consumed platform (tasks process) place row mutations what
  once : ∀ place before process first between other second after,
    machine.trace = before ++ (process, first) :: between ++ (other, second) :: after →
      first.rows place = some none → second.rows place = some none → ∃ entry ∈ between, ∃ store clock drawn visited mutations actor row,
        tasks entry.1 = .prepare store clock drawn visited place.1 place.2 mutations actor ∧ entry.2.rows = only place (some row)
  applied : ∀ before process what after, machine.trace = before ++ (process, what) :: after → ∀ actor mutation,
    Deed.mutation actor mutation ∈ what.notes → ∃ place row mutations, Standing tasks rows before place row mutations ∧
      what.rows = only place none ∧ what.notes = applying row.actor mutations
  committed : ∀ process store clock visited (place : Place), tasks process = .commit store clock visited place.1 place.2 →
    machine.threads process = some (.done ()) → ∃ before what after row mutations, machine.trace = before ++ (process, what) :: after ∧
      Standing tasks rows before place row mutations ∧ what.rows = only place none ∧ what.notes = applying row.actor mutations ∧
      ∀ other ∈ settledBy process before ++ settledBy process after, Purged other
  uncommitted : ∀ process store clock visited (place : Place) error, tasks process = .commit store clock visited place.1 place.2 →
    machine.threads process = some (.stop error) → ∀ what ∈ settledBy process machine.trace, Purged what
  aborted : ∀ process store clock (place : Place), tasks process = .abort store clock place.1 place.2 →
    machine.threads process = some (.done ()) → ∃ before what after row mutations, machine.trace = before ++ (process, what) :: after ∧
      Standing tasks rows before place row mutations ∧ what.rows = only place none ∧ what.notes = [] ∧
      settledBy process before = [] ∧ settledBy process after = []
  unaborted : ∀ process store clock (place : Place) error, tasks process = .abort store clock place.1 place.2 →
    machine.threads process = some (.stop error) → ∀ what ∈ settledBy process machine.trace, what.notes = [] ∧ ∀ other, what.rows other = none
  prepared : ∀ process store clock drawn visited (place : Place) mutations actor,
    tasks process = .prepare store clock drawn visited place.1 place.2 mutations actor → machine.threads process = some (.done ()) →
      ∃ before what after row, machine.trace = before ++ (process, what) :: after ∧ held rows before place = none ∧
        what.rows = only place (some row) ∧ row.actor = actor ∧ Sealed platform row (prepareExpiry store clock) mutations ∧
        ∀ other ∈ settledBy process before ++ settledBy process after, Purged other
  unprepared : ∀ process store clock drawn visited (place : Place) mutations actor error,
    tasks process = .prepare store clock drawn visited place.1 place.2 mutations actor → machine.threads process = some (.stop error) →
      ∀ what ∈ settledBy process machine.trace, Purged what

section Histories
variable (trace : Trace) (lawful : LawfulTrace platform tasks rows trace)
include lawful

theorem trace_consumed (before : Trace) (process : Nat) (what : Done) (after : Trace) (split : trace = before ++ (process, what) :: after)
    (place : Place) (removed : what.rows place = some none) :
    ∃ row mutations, held rows before place = some row ∧ Standing tasks rows before place row mutations ∧
      Consumed platform (tasks process) place row mutations what := by
  have earlier : LawfulTrace platform tasks rows before := by
    intro start other done rest same
    apply lawful start other done (rest ++ (process, what) :: after)
    rw [split, same, List.append_assoc, List.cons_append]
  obtain ⟨row, found, ways⟩ := lawful_removes platform (tasks process) _ what (lawful before process what after split) place removed
  obtain ⟨⟨mutations, standing⟩, every⟩ := held_standing platform tasks rows before earlier place row found
  rcases ways with ⟨expiry, list, holds, consumed⟩ | consumed
  · exact ⟨row, list, found, every expiry list holds, consumed⟩
  · exact ⟨row, mutations, found, standing, consumed mutations⟩

theorem trace_once (place : Place) (before : Trace) (process : Nat) (first : Done) (between : Trace) (other : Nat) (second : Done)
    (after : Trace) (split : trace = before ++ (process, first) :: between ++ (other, second) :: after)
    (gone : first.rows place = some none) (again : second.rows place = some none) :
    ∃ entry ∈ between, ∃ store clock drawn visited mutations actor row,
      tasks entry.1 = .prepare store clock drawn visited place.1 place.2 mutations actor ∧ entry.2.rows = only place (some row) := by
  obtain ⟨row, mutations, _, standing, _⟩ := trace_consumed platform tasks rows trace lawful _ other second after split place again
  have disturbs : ∀ rest : Trace, (process, first) ∈ rest → ¬Undisturbed tasks rest place := by
    intro rest member undisturbed
    rcases undisturbed _ member with untouched | ⟨new, _, _, _, _, left, _⟩
    · cases untouched.symm.trans gone
    · cases left.symm.trans gone
  cases standing with
  | started _ _ _ since => exact absurd since (disturbs _ (List.mem_append_right _ List.mem_cons_self))
  | prepared earlier later putter put row store clock drawn visited actor same called left _ _ since =>
      rcases List.append_eq_append_iff.mp same with ⟨extra, rfl, rest⟩ | ⟨extra, rfl, rest⟩
      · cases extra with
        | nil =>
            obtain ⟨entry, _⟩ := List.cons.inj rest
            cases entry
            rw [left] at gone
            cases (only_some _ _ _ _ gone).2
        | cons entry extra =>
            obtain ⟨_, inside⟩ := List.cons.inj rest
            refine ⟨(putter, put), ?_, store, clock, drawn, visited, mutations, actor, row, called, left⟩
            rw [inside]
            exact List.mem_append_right _ List.mem_cons_self
      · cases extra with
        | nil =>
            obtain ⟨entry, _⟩ := List.cons.inj rest
            cases entry
            rw [left] at gone
            cases (only_some _ _ _ _ gone).2
        | cons entry extra =>
            obtain ⟨_, inside⟩ := List.cons.inj rest
            apply absurd since (disturbs later _)
            rw [inside]
            exact List.mem_append_right _ List.mem_cons_self

theorem trace_applied (before : Trace) (process : Nat) (what : Done) (after : Trace) (split : trace = before ++ (process, what) :: after)
    (noted : what.notes ≠ []) (apart : what.notes ≠ [.rewrap]) :
    ∃ place row mutations, Standing tasks rows before place row mutations ∧ what.rows = only place none ∧
      what.notes = applying row.actor mutations ∧
      ∃ store clock visited, tasks process = .commit store clock visited place.1 place.2 := by
  have rule := lawful before process what after split
  cases rule with
  | idles notes => exact absurd notes noted
  | purges notes => exact absurd notes noted
  | prepares _ _ _ _ _ _ _ _ _ _ notes => exact absurd notes noted
  | lapses _ _ _ _ _ _ _ _ _ _ notes => exact absurd notes noted
  | aborts _ _ _ _ _ _ notes => exact absurd notes noted
  | rewraps notes => exact absurd notes apart
  | reseals _ _ _ _ _ notes => exact absurd notes noted
  | applies store clock visited tenant transaction row expiry mutations called notes changed found live sealedLive holds =>
      have earlier : LawfulTrace platform tasks rows before := by
        intro start other done rest same
        apply lawful start other done (rest ++ (process, what) :: after)
        rw [split, same, List.append_assoc, List.cons_append]
      obtain ⟨_, every⟩ := held_standing platform tasks rows before earlier (tenant, transaction) row found
      exact ⟨(tenant, transaction), row, mutations, every expiry mutations holds, changed, notes, store, clock, visited, called⟩

end Histories

theorem batch_lifecycle (events : List (Event StoreError)) :
    Lifecycle platform tasks rows ((Database.start platform tasks rows).run events) := by
  have running := batches_running platform tasks rows events
  have lawful : LawfulTrace platform tasks rows ((Database.start platform tasks rows).run events).trace := running.accounted.lawful
  have single : ∀ (first : Done), Purged first → ∀ other ∈ [first] ++ [], Purged other := by
    intro first purged other member
    rw [List.append_nil] at member
    rw [List.mem_singleton.mp member]
    exact purged
  constructor
  · exact running.accounted.kept
  · exact trace_consumed platform tasks rows _ lawful
  · exact trace_once platform tasks rows _ lawful
  · intro before process what after split actor mutation member
    obtain ⟨place, row, mutations, standing, changed, notes, _⟩ := trace_applied platform tasks rows _ lawful before process what after split
      (List.ne_nil_of_mem member) (fun only => by rw [only] at member; cases List.mem_singleton.mp member)
    exact ⟨place, row, mutations, standing, changed, notes⟩
  · intro process store clock visited place called there
    obtain ⟨phase, ends, settled⟩ := running_done _ _ _ _ _ running process () there
    rw [called] at ends
    obtain ⟨purged, applied, pair, fair, noted, changed⟩ := ends
    obtain ⟨before, after, split, starts, rest⟩ := settled_split process _ [purged] [] applied (settled.symm.trans pair)
    obtain ⟨row, mutations, _, standing, consumed⟩ := trace_consumed platform tasks rows _ lawful before process applied after split place
      (changed ▸ if_pos rfl)
    refine ⟨before, applied, after, row, mutations, split, standing, changed, ?_, ?_⟩
    · cases consumed with
      | applied _ _ _ _ _ notes => exact notes
      | aborted _ _ _ notes => exact absurd notes noted
      | expired notes => exact absurd notes noted
      | lapsed _ _ _ _ _ _ _ notes => exact absurd notes noted
    · rw [starts, rest]
      exact single purged fair
  · intro process store clock visited place error called there
    obtain ⟨phase, ends, settled⟩ := running_stopped _ _ _ _ _ running process error there
    rw [called] at ends
    rw [← settled]
    exact ends
  · intro process store clock place called there
    obtain ⟨phase, ends, settled⟩ := running_done _ _ _ _ _ running process () there
    rw [called] at ends
    obtain ⟨dropped, alone, notes, changed⟩ := ends
    obtain ⟨before, after, split, starts, rest⟩ := settled_split process _ [] [] dropped (settled.symm.trans alone)
    obtain ⟨row, mutations, _, standing, _⟩ := trace_consumed platform tasks rows _ lawful before process dropped after split place
      (changed ▸ if_pos rfl)
    exact ⟨before, dropped, after, row, mutations, split, standing, changed, notes, starts, rest⟩
  · intro process store clock place error called there
    obtain ⟨phase, ends, settled⟩ := running_stopped _ _ _ _ _ running process error there
    rw [called] at ends
    rw [← settled]
    exact ends
  · intro process store clock drawn visited place mutations actor called there
    obtain ⟨phase, ends, settled⟩ := running_done _ _ _ _ _ running process () there
    rw [called] at ends
    obtain ⟨purged, put, row, pair, fair, _, changed⟩ := ends
    obtain ⟨before, after, split, starts, rest⟩ := settled_split process _ [purged] [] put (settled.symm.trans pair)
    have rule := lawful before process put after split
    rw [called] at rule
    rcases lawful_leaves platform _ _ put rule place row (changed ▸ if_pos rfl) with
      ⟨_, _, _, _, _, _, same, _, named, holds, free⟩ | ⟨_, _, _, _, _, other, _⟩
    · cases same
      refine ⟨before, put, after, row, split, free, changed, named, holds, ?_⟩
      rw [starts, rest]
      exact single purged fair
    · cases other
  · intro process store clock drawn visited place mutations actor error called there
    obtain ⟨phase, ends, settled⟩ := running_stopped _ _ _ _ _ running process error there
    rw [called] at ends
    rw [← settled]
    exact ends

end Traces
end BatchCalls
end Secrets
