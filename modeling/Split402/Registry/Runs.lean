import Split402.Base.Run
import Split402.Registry.ReceiptPolicy

/-! # Runs of the registries

The calls that change the registries, one after the other. A call that throws leaves them as they
are. Of the merchants it is only used that calls change them, in any way. -/

namespace Split402

variable {ν : Type}

inductive RegistryCall (ν : Type)
  | createCampaign (env : CallEnv) (input : CreateCampaignInput ν)
  | createCampaignVersion (env : CallEnv) (input : CreateCampaignVersionInput ν)
  | activateCampaignVersion (env : CallEnv) (input : ActivateCampaignVersionInput)
  | updateCampaignStatus (env : CallEnv) (campaignId : String) (status : CampaignStatusTransition)
  | activateRoute (env : CallEnv) (claim : Option ReferralClaimV1)
  | rotateRoutePayout (env : CallEnv) (routeId : String) (claim : Option ReferralClaimV1)
  | suspendRoute (routeId : String)
  | resumeRoute (routeId : String)
  | changeMerchants (merchants : MerchantRegistry)

namespace Registries

variable (runtime : RegistryRuntime ν)

def empty : Registries ν := ⟨.empty, .empty, .empty⟩

/-- The registries after a call, when it returns. -/
def apply (s : Registries ν) : RegistryCall ν → Except RegistryError (Registries ν)
  | .createCampaign env input => do
      let (_, campaigns) ← s.campaigns.createCampaign runtime env input
      pure { s with campaigns := campaigns }
  | .createCampaignVersion env input => do
      let (_, campaigns) ← s.campaigns.createCampaignVersion runtime env input
      pure { s with campaigns := campaigns }
  | .activateCampaignVersion env input => do
      let (_, campaigns) ← s.campaigns.activateCampaignVersion runtime env input
      pure { s with campaigns := campaigns }
  | .updateCampaignStatus env campaignId status => do
      let (_, campaigns) ← s.campaigns.updateCampaignStatus runtime env campaignId status
      pure { s with campaigns := campaigns }
  | .activateRoute env claim => do
      let (_, routes) ← s.routes.activateRoute runtime env claim
      pure { s with routes := routes }
  | .rotateRoutePayout env routeId claim => do
      let (_, routes) ← s.routes.rotateRoutePayout runtime env routeId claim
      pure { s with routes := routes }
  | .suspendRoute routeId => do
      let (_, routes) ← s.routes.suspendRoute routeId
      pure { s with routes := routes }
  | .resumeRoute routeId => do
      let (_, routes) ← s.routes.resumeRoute routeId
      pure { s with routes := routes }
  | .changeMerchants merchants => pure { s with merchants := merchants }

/-- The registries after a call. -/
def after (s : Registries ν) (call : RegistryCall ν) : Registries ν :=
  match s.apply runtime call with
  | .ok s' => s'
  | .error _ => s

/-- The runs of the registries. -/
def system : Base.System (Registries ν) (RegistryCall ν) where
  init s := s = empty
  step s call s' := s' = s.after runtime call

/-- The registries that calls from empty lead to. -/
def afterAll (calls : List (RegistryCall ν)) : Registries ν :=
  calls.foldl (after runtime) empty

variable {runtime}

theorem after_of_apply {s s' : Registries ν} {call : RegistryCall ν}
    (h : s.apply runtime call = .ok s') : s.after runtime call = s' := by
  rw [after, h]

/-- Calls that are admitted lead to reachable registries. -/
theorem reachable_afterAll {ok : Registries ν → RegistryCall ν → Bool}
    {calls : List (RegistryCall ν)}
    (h : Base.System.admittedAlong (after runtime) ok empty calls = true) :
    (system runtime).Reachable (fun s call => ok s call = true) (afterAll runtime calls) := by
  refine Base.System.Reachable.of_trace ?_ (.init rfl) h
  intro s call haccept
  exact ⟨call, haccept, rfl⟩

theorem reachable_of_calls (calls : List (RegistryCall ν)) :
    (system runtime).Reachable (fun _ _ => True) (afterAll runtime calls) := by
  have hall : ∀ s : Registries ν,
      Base.System.admittedAlong (after runtime) (fun _ _ => true) s calls = true := by
    induction calls with
    | nil => exact fun _ => rfl
    | cons call calls ih => exact fun s => ih (s.after runtime call)
  exact (reachable_afterAll (hall empty)).mono fun _ _ _ => trivial

end Registries

end Split402
