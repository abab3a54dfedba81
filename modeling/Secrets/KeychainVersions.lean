import Secrets.KeychainEntries
import Secrets.KeychainRename
import Secrets.Lib.Knowledge

set_option autoImplicit false

namespace Secrets

open Std Programs Storage
open Framing (Bytes)

namespace Keychain

-- A credential store that processes share: what it holds, how many versions
-- were generated, and how many calls were made.
structure Vault where
  ring : Ring
  drawn : Nat
  made : Nat

def Call.draws : Call → Nat
  | .nowV7 => 1
  | _ => 0

def Vault.answer (search : Search) (versions : Nat → Uuid) (fails : Nat → Bool) (call : Call) (vault : Vault) : call.Answer × Vault :=
  match if fails vault.made then call.failed else none with
  | some refusal => (refusal, { vault with made := vault.made + 1 })
  | none =>
      let (given, ring) := Keychain.answer search (versions vault.drawn) call vault.ring
      (given, ⟨ring, vault.drawn + call.draws, vault.made + 1⟩)

abbrev Outcome : Type := Exchange Command Command.Answer

def operation (service : String) (command : Command) : Operation Outcome := do
  let answer ← perform service command
  pure ⟨command, answer⟩

def started (service : String) (commands : List Command) : List (Thread Nat Call Call.Answer StorageError Outcome) :=
  commands.zipIdx.map fun command => ⟨command.2, [], operation service command.1⟩

structure Learned where
  taken : List Bytes
  own : Option Bytes

inductive Learns (service : String) : Learned → (call : Call) → call.Answer → Learned → Prop where
  | took (learned : Learned) (entry : Entry) (blob : Bytes) (ours : entry.service = service) :
      Learns service learned (.getSecret entry) (.ok blob) { learned with taken := blob :: learned.taken }
  | drew (learned : Learned) (version : Uuid) (value : SecretValue) :
      Learns service learned .nowV7 version { learned with own := some (blobOf version value.bytes) }
  | placed (learned : Learned) (entry : Entry) (blob : Bytes) (answer : Except KeyringError Unit)
      (known : blob ∈ learned.taken ∨ learned.own = some blob) : Learns service learned (.setSecret entry blob) answer learned
  | asked (learned : Learned) (call : Call) (answer : call.Answer) (unset : ∀ entry blob, call ≠ .setSecret entry blob) :
      Learns service learned call answer learned

def Reported : Except StorageError Outcome → Learned → Prop
  | .ok ⟨.read _, revealed⟩, learned => ∃ blob ∈ learned.taken, revealedOf blob = .ok revealed
  | .ok ⟨.write _ value, written⟩, learned => ∃ version existed,
      written = outcome existed (versionOf version) ∧ learned.own = some (blobOf version value.bytes)
  | _, _ => True

abbrev Book : Type := List (Option Nat × Bytes)

section Operations
variable (service : String)

section Steps
variable {Value : Type} (post : Except StorageError Value → Learned → Prop) (free : ∀ error learned, post (.error error) learned)
include free

theorem asked_learns {Asked : Type} (call : Call) (view : call.Answer → Except KeyringError Asked) (learned : Learned)
    (unset : ∀ entry blob, call ≠ .setSecret entry blob) (next : Asked → Operation Value)
    (goes : ∀ value, (next value).Heeds (Learns service) post learned) :
    (asked call view >>= next).Heeds (Learns service) post learned := by
  intro answer
  refine ⟨learned, .asked learned call answer unset, ?_⟩
  change (Prog.lift ((view answer).mapError failure) >>= next).Heeds (Learns service) post learned
  cases view answer with
  | error error => exact free _ _
  | ok value => exact goes value

theorem entry_learns (address : Address) (learned : Learned) (next : Entry → Operation Value)
    (goes : (next (place service address)).Heeds (Learns service) post learned) :
    (entry service address >>= next).Heeds (Learns service) post learned := by
  rw [entry, Prog.bind_assoc]
  exact asked_learns service post free (.build (place service address)) id learned (by simp) _ fun _ => goes

theorem get_learns (entry : Entry) (ours : entry.service = service) (learned : Learned) (next : Bytes → Operation Value)
    (goes : ∀ blob, (next blob).Heeds (Learns service) post { learned with taken := blob :: learned.taken }) :
    (asked (.getSecret entry) id >>= next).Heeds (Learns service) post learned := by
  intro answer
  cases answer with
  | error error => exact ⟨learned, .asked learned _ _ (by simp), free _ _⟩
  | ok blob => exact ⟨_, .took learned entry blob ours, goes blob⟩

theorem stored_learns (entry : Entry) (learned : Learned) (next : Option Bytes → Operation Value)
    (goes : ∀ held, (next held).Heeds (Learns service) post learned) : (stored entry >>= next).Heeds (Learns service) post learned := by
  intro answer
  refine ⟨learned, .asked learned _ _ (by simp), ?_⟩
  cases answer with
  | ok blob => exact goes (some blob)
  | error error =>
      cases error with
      | noEntry => exact goes none
      | other => exact free _ _

theorem set_learns (entry : Entry) (blob : Bytes) (learned : Learned) (known : blob ∈ learned.taken ∨ learned.own = some blob)
    (next : Unit → Operation Value) (goes : (next ()).Heeds (Learns service) post learned) :
    (asked (.setSecret entry blob) id >>= next).Heeds (Learns service) post learned := by
  intro answer
  refine ⟨learned, .placed learned entry blob answer known, ?_⟩
  cases answer with
  | error error => exact free _ _
  | ok value => exact goes

end Steps

theorem moved_learns (post : Except StorageError Unit → Learned → Prop) (source destination : Entry) (learned : Learned)
    (always : ∀ ended, post ended learned) : (moved source destination).Heeds (Learns service) post learned := by
  intro answer
  refine ⟨learned, .asked learned _ _ (by simp), ?_⟩
  cases answer with
  | ok value => exact always _
  | error error =>
      intro undone
      exact ⟨learned, .asked learned _ _ (by simp), always _⟩

theorem rows_learn (post : Except StorageError (List Storage.SecretMetadata) → Learned → Prop) (learned : Learned)
    (always : ∀ ended, post ended learned) (free : ∀ error learned, post (.error error) learned) (scope : Scope) (found : List (Option Entry))
    (next : List Storage.SecretMetadata → List Storage.SecretMetadata) :
    (rowsOf service scope found >>= fun rows => pure (next rows)).Heeds (Learns service) post learned := by
  induction found generalizing next with
  | nil => exact always _
  | cons first rest ih =>
      rw [rowsOf]
      cases listable service scope first with
      | none => exact ih next
      | some looked =>
          obtain ⟨entry, address⟩ := looked
          dsimp only
          rw [Prog.bind_assoc]
          apply stored_learns service post free
          intro held
          rw [Prog.bind_assoc]
          cases rowOf address held with
          | error error => exact free _ _
          | ok row =>
              have others := ih fun rows => next (row.toList ++ rows)
              rw [Prog.lift, Prog.done_bind, Prog.bind_assoc]
              exact others

theorem operation_learns (command : Command) : (operation service command).Heeds (Learns service) Reported ⟨[], none⟩ := by
  have free : ∀ error learned, Prog.Then (Learns service) Reported (fun answer => pure (⟨command, answer⟩ : Outcome)) (.error error) learned :=
    fun _ _ => trivial
  apply heeds_bind
  cases command with
  | read target =>
      apply entry_learns service _ free
      apply get_learns service _ free _ rfl
      intro blob
      have ended : (Prog.lift (revealedOf blob) : Operation Revealed).Heeds (Learns service)
          (Prog.Then (Learns service) Reported fun answer => pure (⟨.read target, answer⟩ : Outcome)) ⟨[blob], none⟩ := by
        apply heeds_lift
        cases revealed : revealedOf blob with
        | error error => trivial
        | ok value => exact ⟨blob, List.mem_singleton_self _, revealed⟩
      rw [← opened_blob] at ended
      exact ended
  | write target value =>
      apply entry_learns service _ free
      apply stored_learns service _ free
      intro held version
      refine ⟨_, .drew ⟨[], none⟩ version value, ?_⟩
      apply set_learns service _ free _ _ _ (.inr rfl)
      exact ⟨version, held.isSome, rfl, rfl⟩
  | delete target =>
      apply entry_learns service _ free
      intro answer
      refine ⟨_, .asked ⟨[], none⟩ _ answer (by simp), ?_⟩
      cases answer <;> trivial
  | rename target newName =>
      apply entry_learns service _ free
      apply get_learns service _ free _ rfl
      intro blob
      apply entry_learns service _ free
      apply stored_learns service _ free
      intro held
      cases held with
      | some taken => exact trivial
      | none =>
          apply set_learns service _ free _ _ _ (.inl (List.mem_singleton_self _))
          apply moved_learns
          intro ended
          cases ended <;> trivial
  | list scope =>
      apply asked_learns service _ free (.search service) id ⟨[], none⟩ (by simp)
      intro found
      apply rows_learn service _ _ _ free scope found sort
      intro ended
      cases ended <;> trivial

end Operations

section Vaults
variable (search : Search) (versions : Nat → Uuid) (fails : Nat → Bool)

theorem vault_cases (call : Call) (vault : Vault) :
    (∃ refusal, call.failed = some refusal ∧
      Vault.answer search versions fails call vault = (refusal, { vault with made := vault.made + 1 })) ∨
    Vault.answer search versions fails call vault = ((Keychain.answer search (versions vault.drawn) call vault.ring).1,
      ⟨(Keychain.answer search (versions vault.drawn) call vault.ring).2, vault.drawn + call.draws, vault.made + 1⟩) := by
  unfold Vault.answer
  by_cases strikes : fails vault.made = true
  · rw [if_pos strikes]
    cases refused : call.failed with
    | none => exact .inr rfl
    | some refusal => exact .inl ⟨refusal, rfl, rfl⟩
  · rw [if_neg strikes]
    exact .inr rfl

theorem vault_drawn (call : Call) (vault : Vault) : vault.drawn ≤ (Vault.answer search versions fails call vault).2.drawn := by
  rcases vault_cases search versions fails call vault with ⟨refusal, _, ran⟩ | ran
  · rw [ran]
  · rw [ran]
    exact Nat.le_add_right _ _

theorem vault_ring (call : Call) (vault : Vault) (entry : Entry) (blob : Bytes)
    (held : (Vault.answer search versions fails call vault).2.ring[entry]? = some blob) :
    vault.ring[entry]? = some blob ∨ call = .setSecret entry blob := by
  rcases vault_cases search versions fails call vault with ⟨refusal, _, ran⟩ | ran
  · rw [ran] at held
    exact .inl held
  · rw [ran] at held
    cases call with
    | setSecret place other =>
        change (vault.ring.insert place other)[entry]? = some blob at held
        rw [ExtTreeMap.getElem?_insert] at held
        by_cases here : compare place entry = .eq
        · rw [if_pos here] at held
          obtain rfl := LawfulEqOrd.eq_of_compare here
          obtain rfl := Option.some.inj held
          exact .inr rfl
        · rw [if_neg here] at held
          exact .inl held
    | deleteCredential place =>
        change (Keychain.answer search (versions vault.drawn) (.deleteCredential place) vault.ring).2[entry]? = some blob at held
        rw [answer] at held
        by_cases there : vault.ring.contains place = true
        · rw [if_pos there, ExtTreeMap.getElem?_erase] at held
          by_cases here : compare place entry = .eq
          · rw [if_pos here] at held
            cases held
          · rw [if_neg here] at held
            exact .inl held
        · rw [if_neg there] at held
          exact .inl held
    | build place => exact .inl held
    | getSecret place => exact .inl held
    | search service => exact .inl held
    | nowV7 => exact .inl held

theorem vault_got (entry : Entry) (vault : Vault) (blob : Bytes)
    (got : (Vault.answer search versions fails (.getSecret entry) vault).1 = .ok blob) : vault.ring[entry]? = some blob := by
  rcases vault_cases search versions fails (.getSecret entry) vault with ⟨refusal, failed, ran⟩ | ran
  · rw [ran] at got
    cases failed
    cases got
  · rw [ran] at got
    change (vault.ring[entry]?.elim (Except.error KeyringError.noEntry) Except.ok : Except KeyringError Bytes) = .ok blob at got
    cases found : vault.ring[entry]? with
    | none =>
        rw [found] at got
        cases got
    | some other =>
        rw [found] at got
        exact congrArg some (Except.ok.inj got)

theorem vault_drew (vault : Vault) :
    Vault.answer search versions fails .nowV7 vault = (versions vault.drawn, ⟨vault.ring, vault.drawn + 1, vault.made + 1⟩) := by
  rcases vault_cases search versions fails .nowV7 vault with ⟨refusal, failed, _⟩ | ran
  · cases failed
  · exact ran

variable (service : String) (start : Ring) (drawn : Nat)

-- Up to a number of versions drawn: one version is in one blob, and no later
-- version in any.
structure Kept (book : Book) (vault : Vault) : Prop where
  held : ∀ entry : Entry, entry.service = service → ∀ blob, vault.ring[entry]? = some blob → ∃ maker, (maker, blob) ∈ book
  once : vault.drawn ≤ drawn → ∀ first ∈ book, ∀ second ∈ book, ∀ version value other, openBlob first.2 = .ok (version, value) →
    openBlob second.2 = .ok (version, other) → first.1 = second.1 ∧ value = other
  fresh : ∀ noted ∈ book, ∀ number, vault.drawn ≤ number → number < drawn → ∀ value,
    openBlob noted.2 ≠ .ok (versionOf (versions number), value)
  first : ∀ entry : Entry, entry.service = service → ∀ blob, start[entry]? = some blob → (none, blob) ∈ book

def Unrepeated : Prop := ∀ first second, first < drawn → second < drawn → versions first = versions second → first = second

def Recalls (book : Book) (owner : Nat) (learned : Learned) : Prop :=
  (∀ blob ∈ learned.taken, ∃ maker, (maker, blob) ∈ book) ∧ ∀ blob, learned.own = some blob → (some owner, blob) ∈ book

theorem recalls_more (book more : Book) (owner : Nat) (learned : Learned) (grows : book ⊆ more) (recalls : Recalls book owner learned) :
    Recalls more owner learned := by
  refine ⟨?_, fun blob own => grows (recalls.2 blob own)⟩
  intro blob member
  obtain ⟨maker, noted⟩ := recalls.1 blob member
  exact ⟨maker, grows noted⟩

theorem kept_after (book : Book) (vault : Vault) (call : Call) (kept : Kept versions service start drawn book vault)
    (placed : ∀ entry blob, call = .setSecret entry blob → ∃ maker, (maker, blob) ∈ book) :
    Kept versions service start drawn book (Vault.answer search versions fails call vault).2 := by
  refine ⟨?_, fun few => kept.once (Nat.le_trans (vault_drawn search versions fails call vault) few), ?_, kept.first⟩
  · intro entry ours blob held
    rcases vault_ring search versions fails call vault entry blob held with before | rfl
    · exact kept.held entry ours blob before
    · exact placed entry blob rfl
  · intro noted member number later
    exact kept.fresh noted member number (Nat.le_trans (vault_drawn search versions fails call vault) later)

variable (unrepeated : Unrepeated versions drawn)
include unrepeated

theorem kept_drew (book : Book) (vault : Vault) (owner : Nat) (value : SecretValue)
    (kept : Kept versions service start drawn book vault) :
    Kept versions service start drawn ((some owner, blobOf (versions vault.drawn) value.bytes) :: book)
      ⟨vault.ring, vault.drawn + 1, vault.made + 1⟩ := by
  have sealed := open_blob (versions vault.drawn) value.bytes
  have unheld : vault.drawn < drawn → ∀ noted ∈ book, ∀ version bytes other, openBlob noted.2 = .ok (version, bytes) →
      openBlob (blobOf (versions vault.drawn) value.bytes) = .ok (version, other) → False := by
    intro few noted member version bytes other before opened
    rw [sealed] at opened
    obtain ⟨same, _⟩ := Prod.mk.inj (Except.ok.inj opened)
    rw [← same] at before
    exact kept.fresh noted member vault.drawn (Nat.le_refl _) few bytes before
  constructor
  · intro entry ours blob held
    obtain ⟨maker, noted⟩ := kept.held entry ours blob held
    exact ⟨maker, List.mem_cons_of_mem _ noted⟩
  · intro few first member second other version bytes twin opened again
    rcases List.mem_cons.mp member with rfl | before
    · rcases List.mem_cons.mp other with rfl | behind
      · rw [opened] at again
        exact ⟨rfl, (Prod.mk.inj (Except.ok.inj again)).2⟩
      · exact (unheld few second behind version twin bytes again opened).elim
    · rcases List.mem_cons.mp other with rfl | behind
      · exact (unheld few first before version bytes twin opened again).elim
      · exact kept.once (Nat.le_of_succ_le few) first before second behind version bytes twin opened again
  · intro noted member number later few bytes opened
    rcases List.mem_cons.mp member with rfl | before
    · rw [sealed] at opened
      have same := unrepeated _ _ (Nat.lt_of_lt_of_le (Nat.lt_succ_self _) (Nat.le_trans later few.le)) few
        (version_of_injective _ _ (Prod.mk.inj (Except.ok.inj opened)).1)
      exact absurd later (by rw [← same]; exact Nat.not_succ_le_self _)
    · exact kept.fresh noted before number (Nat.le_of_succ_le later) few bytes opened
  · intro entry ours blob held
    exact List.mem_cons_of_mem _ (kept.first entry ours blob held)

theorem book_learns (book : Book) (owner : Nat) (learned : Learned) (call : Call) (vault : Vault) (after : Learned)
    (kept : Kept versions service start drawn book vault) (recalls : Recalls book owner learned)
    (moved : Learns service learned call (Vault.answer search versions fails call vault).1 after) :
    ∃ more, book ⊆ more ∧ Kept versions service start drawn more (Vault.answer search versions fails call vault).2 ∧
      Recalls more owner after := by
  generalize given : (Vault.answer search versions fails call vault).1 = answer at moved
  cases moved with
  | took entry blob ours =>
      refine ⟨book, List.Subset.refl book, kept_after search versions fails service start drawn book vault _ kept (by simp), ?_, recalls.2⟩
      intro other member
      rcases List.mem_cons.mp member with rfl | before
      · exact kept.held entry ours other (vault_got search versions fails entry vault other given)
      · exact recalls.1 other before
  | drew version value =>
      rw [vault_drew] at given ⊢
      dsimp only at given
      subst given
      refine ⟨_, List.subset_cons_self _ _, kept_drew versions service start drawn unrepeated book vault owner value kept, ?_⟩
      have still := recalls_more book _ owner learned (List.subset_cons_self (some owner, blobOf (versions vault.drawn) value.bytes) book) recalls
      refine ⟨still.1, ?_⟩
      intro blob own
      obtain rfl := Option.some.inj own
      exact List.mem_cons_self
  | placed entry blob answer known =>
      refine ⟨book, List.Subset.refl book, kept_after search versions fails service start drawn book vault _ kept ?_, recalls⟩
      intro place other same
      cases same
      rcases known with taken | own
      · exact recalls.1 blob taken
      · exact ⟨some owner, recalls.2 blob own⟩
  | asked _ _ unset =>
      refine ⟨book, List.Subset.refl book, kept_after search versions fails service start drawn book vault _ kept ?_, recalls⟩
      intro entry blob same
      exact absurd same (unset entry blob)

end Vaults

def Finished (pool : Pool Nat Vault Call Call.Answer StorageError Outcome) (number : Nat) (command : Command) (answer : command.Answer) :
    Prop :=
  ∃ thread, pool.threads[number]? = some thread ∧ thread.prog = .done ⟨command, answer⟩

def outcomeVersion : Storage.Written → Option Version
  | .created version | .replaced version => version

structure Identified (service : String) (start : Ring) (pool : Pool Nat Vault Call Call.Answer StorageError Outcome) : Prop where
  reads : ∀ first second target other revealed twin, Finished pool first (.read target) revealed →
    Finished pool second (.read other) twin → revealed.version = twin.version → revealed.value = twin.value
  written : ∀ reader writer target other value revealed written, Finished pool reader (.read target) revealed →
    Finished pool writer (.write other value) written → revealed.version = outcomeVersion written → revealed.value = value
  writes : ∀ first second target other value twin written rewritten, Finished pool first (.write target value) written →
    Finished pool second (.write other twin) rewritten → first ≠ second → outcomeVersion written ≠ outcomeVersion rewritten
  renewed : ∀ writer target value written, Finished pool writer (.write target value) written →
    ∀ entry : Entry, entry.service = service → ∀ blob, start[entry]? = some blob → ∀ version bytes,
      openBlob blob = .ok (version, bytes) → outcomeVersion written ≠ some version

-- The store at the start: one version holds one value, and none is generated
-- again.
structure Orderly (versions : Nat → Uuid) (service : String) (start : Ring) (drawn : Nat) : Prop where
  once : ∀ first second : Entry, first.service = service → second.service = service → ∀ blob other, start[first]? = some blob →
    start[second]? = some other → ∀ version value twin, openBlob blob = .ok (version, value) → openBlob other = .ok (version, twin) →
      value = twin
  unused : ∀ entry : Entry, entry.service = service → ∀ blob, start[entry]? = some blob → ∀ number < drawn, ∀ value,
    openBlob blob ≠ .ok (versionOf (versions number), value)

section Runs
variable (search : Search) (versions : Nat → Uuid) (fails : Nat → Bool) (service : String) (start : Ring)

def firstBook : Book := (start.toList.filter fun entry => decide (entry.1.service = service)).map fun entry => (none, entry.2)

theorem first_book (maker : Option Nat) (blob : Bytes) :
    (maker, blob) ∈ firstBook service start ↔ maker = none ∧ ∃ entry : Entry, entry.service = service ∧ start[entry]? = some blob := by
  simp only [firstBook, List.mem_map, List.mem_filter, decide_eq_true_eq, Prod.exists, Prod.mk.injEq]
  constructor
  · intro noted
    obtain ⟨entry, held, ⟨member, ours⟩, rfl, rfl⟩ := noted
    exact ⟨rfl, entry, ours, ExtTreeMap.mem_toList_iff_getElem?_eq_some.mp member⟩
  · intro noted
    obtain ⟨rfl, entry, ours, held⟩ := noted
    exact ⟨entry, blob, ⟨ExtTreeMap.mem_toList_iff_getElem?_eq_some.mpr held, ours⟩, rfl, rfl⟩

theorem first_kept (drawn : Nat) (orderly : Orderly versions service start drawn) :
    Kept versions service start drawn (firstBook service start) ⟨start, 0, 0⟩ := by
  constructor
  · intro entry ours blob held
    exact ⟨none, (first_book service start none blob).mpr ⟨rfl, entry, ours, held⟩⟩
  · intro _ first member second other version value twin opened again
    obtain ⟨unmade, entry, ours, held⟩ := (first_book service start first.1 first.2).mp member
    obtain ⟨unmade', place, ours', held'⟩ := (first_book service start second.1 second.2).mp other
    exact ⟨unmade.trans unmade'.symm, orderly.once entry place ours ours' first.2 second.2 held held' version value twin opened again⟩
  · intro noted member number _ few value
    obtain ⟨_, entry, ours, held⟩ := (first_book service start noted.1 noted.2).mp member
    exact orderly.unused entry ours noted.2 held number few value
  · intro entry ours blob held
    exact (first_book service start none blob).mpr ⟨rfl, entry, ours, held⟩

theorem revealed_opened (blob : Bytes) (revealed : Revealed) (read : revealedOf blob = .ok revealed) :
    ∃ version, revealed.version = some version ∧ openBlob blob = .ok (version, revealed.value.bytes) := by
  rw [revealedOf] at read
  cases opened : openBlob blob with
  | error error =>
      rw [opened] at read
      cases read
  | ok parts =>
      rw [opened] at read
      change (SecretValue.new parts.2 >>= fun value => pure (⟨value, some parts.1⟩ : Revealed)) = .ok revealed at read
      cases made : SecretValue.new parts.2 with
      | error error =>
          rw [made] at read
          cases read
      | ok value =>
          rw [made] at read
          obtain rfl := Except.ok.inj read
          rw [← (secret_value_new value parts.2).mp made]
          exact ⟨parts.1, rfl, rfl⟩

theorem outcome_version (existed : Bool) (version : Version) : outcomeVersion (outcome existed version) = some version := by
  cases existed <;> rfl

variable (commands : List Command) (schedule : List Nat)

theorem started_number (number : Nat) (thread : Thread Nat Call Call.Answer StorageError Outcome)
    (there : (Pool.turns (Vault.answer search versions fails) ⟨⟨start, 0, 0⟩, started service commands⟩ schedule).threads[number]? = some thread) :
    thread.tag = number := by
  have tags := Pool.turns_tags (Vault.answer search versions fails) ⟨⟨start, 0, 0⟩, started service commands⟩ schedule
  have own := congrArg (fun tags => tags[number]?) tags
  rw [List.getElem?_map, there, List.getElem?_map, started, List.getElem?_map, List.getElem?_zipIdx] at own
  cases found : commands[number]? with
  | none =>
      rw [found] at own
      cases own
  | some command =>
      rw [found] at own
      have same := Option.some.inj own
      rw [Nat.zero_add] at same
      exact same

/-- However the operations of any number of processes take turns at the store, and whatever
calls fail, a version identifies a value. -/
theorem versions_identify
    (unrepeated : Unrepeated versions
      (Pool.turns (Vault.answer search versions fails) ⟨⟨start, 0, 0⟩, started service commands⟩ schedule).shared.drawn)
    (orderly : Orderly versions service start
      (Pool.turns (Vault.answer search versions fails) ⟨⟨start, 0, 0⟩, started service commands⟩ schedule).shared.drawn) :
    Identified service start (Pool.turns (Vault.answer search versions fails) ⟨⟨start, 0, 0⟩, started service commands⟩ schedule) := by
  let drawn := (Pool.turns (Vault.answer search versions fails) ⟨⟨start, 0, 0⟩, started service commands⟩ schedule).shared.drawn
  have begun : Pool.Witnessed (Learns service) (fun _ => Reported) (Kept versions service start drawn) Recalls
      ⟨⟨start, 0, 0⟩, started service commands⟩ := by
    refine ⟨firstBook service start, first_kept versions service start drawn orderly, ?_⟩
    intro thread member
    obtain ⟨command, _, rfl⟩ := List.mem_map.mp member
    exact ⟨⟨[], none⟩, operation_learns service command.1, by simp, by simp⟩
  obtain ⟨book, kept, knows⟩ := Pool.turns_witnessed (Vault.answer search versions fails) (Learns service) (fun _ => Reported)
    (Kept versions service start drawn) Recalls (fun book more => book ⊆ more)
    (fun book more owner learned grows recalls => recalls_more book more owner learned grows recalls)
    (fun book owner learned call vault after holds recalls moved =>
      book_learns search versions fails service start drawn unrepeated book owner learned call vault after holds recalls moved)
    schedule _ begun
  have once := kept.once (Nat.le_refl drawn)
  have told : ∀ number command answer, Finished (Pool.turns (Vault.answer search versions fails)
      ⟨⟨start, 0, 0⟩, started service commands⟩ schedule) number command answer →
      ∃ learned, Reported (.ok ⟨command, answer⟩) learned ∧ Recalls book number learned := by
    intro number command answer finished
    obtain ⟨thread, there, ended⟩ := finished
    obtain ⟨learned, heeds, recalls⟩ := knows thread (List.mem_of_getElem? there)
    rw [ended] at heeds
    rw [started_number search versions fails service start commands schedule number thread there] at recalls
    exact ⟨learned, heeds, recalls⟩
  have readFrom : ∀ number target revealed, Finished (Pool.turns (Vault.answer search versions fails)
      ⟨⟨start, 0, 0⟩, started service commands⟩ schedule) number (.read target) revealed →
      ∃ noted ∈ book, ∃ version, revealed.version = some version ∧ openBlob noted.2 = .ok (version, revealed.value.bytes) := by
    intro number target revealed finished
    obtain ⟨learned, ⟨blob, member, read⟩, recalls⟩ := told number (.read target) revealed finished
    obtain ⟨maker, noted⟩ := recalls.1 blob member
    exact ⟨(maker, blob), noted, revealed_opened blob revealed read⟩
  have wroteTo : ∀ number target value written, Finished (Pool.turns (Vault.answer search versions fails)
      ⟨⟨start, 0, 0⟩, started service commands⟩ schedule) number (.write target value) written →
      ∃ blob version, (some number, blob) ∈ book ∧ outcomeVersion written = some version ∧ openBlob blob = .ok (version, value.bytes) := by
    intro number target value written finished
    obtain ⟨learned, ⟨version, existed, rfl, own⟩, recalls⟩ := told number (.write target value) written finished
    exact ⟨_, versionOf version, recalls.2 _ own, outcome_version existed _, open_blob version value.bytes⟩
  have sameValue : ∀ first second : SecretValue, first.bytes = second.bytes → first = second := by
    intro first second same
    cases first
    cases second
    cases same
    rfl
  constructor
  · intro first second target other revealed twin finished ended same
    obtain ⟨noted, member, version, versioned, opened⟩ := readFrom first target revealed finished
    obtain ⟨again, there, version', versioned', opened'⟩ := readFrom second other twin ended
    rw [versioned, versioned'] at same
    obtain rfl := Option.some.inj same
    exact sameValue _ _ (once noted member again there version _ _ opened opened').2
  · intro reader writer target other value revealed written finished ended same
    obtain ⟨noted, member, version, versioned, opened⟩ := readFrom reader target revealed finished
    obtain ⟨blob, version', there, versioned', opened'⟩ := wroteTo writer other value written ended
    rw [versioned, versioned'] at same
    obtain rfl := Option.some.inj same
    exact sameValue _ _ (once noted member _ there version _ _ opened opened').2
  · intro first second target other value twin written rewritten finished ended apart same
    obtain ⟨blob, version, there, versioned, opened⟩ := wroteTo first target value written finished
    obtain ⟨blob', version', there', versioned', opened'⟩ := wroteTo second other twin rewritten ended
    rw [versioned, versioned'] at same
    obtain rfl := Option.some.inj same
    exact apart (Option.some.inj (once _ there _ there' version _ _ opened opened').1)
  · intro writer target value written finished entry ours blob held version bytes opened same
    obtain ⟨sealed, version', there, versioned, opened'⟩ := wroteTo writer target value written finished
    rw [versioned] at same
    obtain rfl := Option.some.inj same
    have first := kept.first entry ours blob held
    have owner := (once _ there _ first version' _ _ opened' opened).1
    cases owner

end Runs

section Example

def drawing (number : Nat) : Uuid := Vector.replicate 16 (UInt8.ofNat (number + 1))

theorem beside_another_held (entry : Entry) (ours : entry.service = "b10x-secrets") (blob : Bytes)
    (held : besideAnother[entry]? = some blob) : blob = blobOf nilVersion [104] := by
  rw [besideAnother, ExtTreeMap.getElem?_insert] at held
  split at held
  · rename_i same
    obtain rfl := LawfulEqOrd.eq_of_compare same
    exact absurd ours (by decide)
  · rw [holding, ExtTreeMap.getElem?_insert] at held
    split at held
    · exact (Option.some.inj held).symm
    · rw [ExtTreeMap.getElem?_empty] at held
      cases held

theorem orderly_beside_another : Orderly drawing "b10x-secrets" besideAnother 2 := by
  constructor
  · intro first second ours others blob other held there version value twin opened again
    obtain rfl := beside_another_held first ours blob held
    obtain rfl := beside_another_held second others other there
    exact congrArg Prod.snd (Except.ok.inj (opened.symm.trans again))
  · intro entry ours blob held number few value opened
    obtain rfl := beside_another_held entry ours blob held
    rw [open_blob] at opened
    have same := version_of_injective _ _ (congrArg Prod.fst (Except.ok.inj opened))
    interval_cases number <;> exact absurd same (by decide)

theorem unrepeated_drawing : Unrepeated drawing 2 := by
  intro first second low less same
  interval_cases first <;> interval_cases second <;> first | rfl | exact absurd same (by decide)

def writers : List Command := [.write (.unbound token) ⟨[1], by decide⟩, .write (.unbound token) ⟨[2], by decide⟩, .read (.unbound token)]

def meeting : Pool Nat Vault Call Call.Answer StorageError Outcome :=
  Pool.turns (Vault.answer everyEntry drawing fun _ => false) ⟨⟨besideAnother, 0, 0⟩, started "b10x-secrets" writers⟩
    [0, 0, 1, 0, 1, 1, 1, 2, 0, 2]

theorem meeting_identified :
    Identified "b10x-secrets" besideAnother meeting ∧
      Finished meeting 0 (.write (.unbound token) ⟨[1], by decide⟩) (.replaced (versionOf (drawing 0))) ∧
      Finished meeting 1 (.write (.unbound token) ⟨[2], by decide⟩) (.replaced (versionOf (drawing 1))) ∧
      Finished meeting 2 (.read (.unbound token)) ⟨⟨[1], by decide⟩, some (versionOf (drawing 0))⟩ := by
  have two : meeting.shared.drawn = 2 := by decide +kernel
  refine ⟨?_, ⟨_, rfl, rfl⟩, ⟨_, rfl, rfl⟩, ⟨_, rfl, rfl⟩⟩
  exact versions_identify everyEntry drawing (fun _ => false) "b10x-secrets" besideAnother writers _
    (two ▸ unrepeated_drawing) (two ▸ orderly_beside_another)

end Example
end Keychain
end Secrets
