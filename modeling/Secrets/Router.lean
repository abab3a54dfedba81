import Secrets.Requests
import Secrets.UserRoutes

set_option autoImplicit false

namespace Secrets

open Effects Effects.Tx Programs

/-- The store is asked only for a caller that the authority vouched for, after every check
of the router, and about the caller's tenant. -/
theorem router_authorizes (extractors : Extractors) (request : HttpRequest) :
    (∀ past prog, Reaches (serve extractors request) past prog →
      (∀ call next, prog = .ask (.store call) next →
        ∃ principal, Admitted extractors request past principal ∧ call.tenant = principal.tenant) ∧
      ((∃ asked ∈ past, FromStore asked) → ∃ principal, Admitted extractors request past principal) ∧
      (Finished prog → (¬∃ asked ∈ past, FromStore asked) →
        ∃ refusal, prog = .stop refusal ∧ Refused extractors request past refusal)) ∧
    (request.route.family = .user → ∀ (service : Service) (state after : Serving) (reply : Reply),
      run service.perform (serve extractors request) state = (.ok reply, after) → Own service request state reply) ∧
    (request.route.family = .user → ∀ (service : Service) (left right : Serving), SameRecords left right →
      (run service.perform (serve extractors request) left).1 = (run service.perform (serve extractors request) right).1) := by
  refine ⟨fun past prog reached => ?_, fun user service state after reply ran =>
    user_route_own service extractors request state after user reply ran, fun user service left right same =>
    (user_route_blind service extractors request user left right same).1⟩
  cases serve_stands extractors request past prog reached with
  | refused refusal stopped first =>
      refine ⟨fun call next asks => ?_, ?_, fun _ _ => ⟨refusal, stopped, first⟩⟩
      · rw [stopped] at asks
        cases asks
      · rintro ⟨asked, member, call, answer, rfl⟩
        cases first <;> simp at member
  | verifying token next start asks =>
      subst start
      refine ⟨fun call other again => ?_, by simp, fun finished => absurd asks (finished _ _)⟩
      rw [asks] at again
      cases again
  | admitted principal admitted addressed turns =>
      refine ⟨fun call next asks => ⟨principal, admitted, ?_⟩, fun _ => ⟨principal, admitted⟩,
        fun finished none => absurd (turns finished) none⟩
      rw [asks] at addressed
      exact addressed.1

-- Every tenant a store call mentions, those inside a batch included.
def StoreCall.tenants : StoreCall → List String
  | .prepare tenant _ mutations _ => tenant :: mutations.map fun mutation => mutation.reference.tenant
  | call => [call.tenant]

namespace Sample

def anyone (tenant : String) : Principal := ⟨"workload:one", tenant, ["*"]⟩

def bearerToken : List Framing.Bytes := [textBytes "Bearer token"]

def foreignBatch : PrepareRequest := ⟨"workload:one", [.delete ⟨"u", "n", "k"⟩]⟩

def prepareForeign : HttpRequest :=
  ⟨.workloadPrepare, bearerToken, none, (textBytes "t", textBytes "ffffffff-ffff-ffff-ffff-ffffffffffff"),
    prepareRequestCodec.print foreignBatch⟩

def listOwn : HttpRequest := ⟨.userList, bearerToken, none, ([], []), []⟩

end Sample

theorem foreign_batch_reaches_store : ¬ ∀ (extractors : Extractors) (request : HttpRequest) (past : List Asked)
    (call : StoreCall) (next : Except StoreError call.Answer → Handler Reply),
    Reaches (serve extractors request) past (.ask (.store call) next) →
      ∃ principal, Admitted extractors request past principal ∧ ∀ tenant ∈ call.tenants, tenant = principal.tenant := by
  intro claim
  have parsed : jsonBody wireExtractors .prepareRequest Sample.prepareForeign = .ok Sample.foreignBatch :=
    wire_json_print _ .prepareRequest _ (by decide) rfl
  have placed : pathParams wireExtractors Sample.prepareForeign = .ok ("t", Sample.transaction) := rfl
  have served : serve wireExtractors Sample.prepareForeign =
      authorize Sample.prepareForeign .workload "secret:prepare" >>= fun principal =>
        tenantMatch principal "t" >>= fun _ =>
          callStore (.prepare "t" Sample.transaction Sample.foreignBatch.mutations "workload:one") >>= fun _ =>
            pure .noContent := by
    rw [serve, if_neg (by decide)]
    change workloadPrepare wireExtractors Sample.prepareForeign = _
    rw [workloadPrepare, placed]
    simp only [Prog.lift, Prog.done_bind, parsed]
    rfl
  have reached : Reaches (serve wireExtractors Sample.prepareForeign)
      [⟨.verify .workload "token", .ok (Sample.anyone "t")⟩]
      (callStore (.prepare "t" Sample.transaction Sample.foreignBatch.mutations "workload:one") >>= fun _ =>
        pure .noContent) := by
    rw [served, authorize_bind _ _ _ "token" rfl]
    exact .later _ _ _ _ _ (.here _)
  obtain ⟨principal, admitted, own⟩ := claim _ _ _ _ _ reached
  have here := own "t" (by simp [StoreCall.tenants])
  have there := own "u" (by simp [StoreCall.tenants, Sample.foreignBatch, Mutation.reference])
  exact absurd (here.trans there.symm) (by decide)

theorem refused_principal_lists_nothing :
    ∃ refusal, Refused wireExtractors Sample.listOwn
      [⟨.verify .user "token", .ok ⟨"user:one", "t", []⟩⟩] refusal ∧ refusal = .missingAction := by
  have reached : Reaches (serve wireExtractors Sample.listOwn)
      [⟨.verify .user "token", .ok ⟨"user:one", "t", []⟩⟩] (.stop .missingAction) := by
    rw [serve, if_neg (by decide)]
    change Reaches (userList Sample.listOwn) _ _
    rw [userList, authorize_bind _ _ _ "token" rfl]
    exact .later _ _ _ _ _ (.here _)
  obtain ⟨_, _, finished⟩ := (router_authorizes wireExtractors Sample.listOwn).1 _ _ reached
  obtain ⟨refusal, stopped, refused⟩ := finished (by simp [Finished]) (by
    rintro ⟨asked, member, call, answer, rfl⟩
    simp at member)
  cases stopped
  exact ⟨_, refused, rfl⟩

end Secrets
