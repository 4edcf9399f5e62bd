import SecretServer.Services.ExecutorService
import SecretServer.Services.ServiceCalls

namespace SecretServer.Api

open Text Concurrency Database Services

/-! `SecretsController`, behind the filter that sets the executor. -/

inductive ActionArgument where
  | createSecretRequest (request : CreateSecretRequest)
  | revealSecretRequest (request : RevealSecretRequest)

/-- What `System.Text.Json` makes of a body: `Executor` is `[JsonIgnore]`. -/
def deserialize (body : CreateSecretRequest) : CreateSecretRequest :=
  { body with executor := none }

namespace ModelState

/-- A property that is not nullable is `[Required]`: null and missing are refused, the
empty string is not. -/
def hasRequired (properties : List (Option Utf16)) : Bool := properties.all Option.isSome

def isValidCreate (body : CreateSecretRequest) : Bool :=
  hasRequired [body.secret, body.ttl, body.passphrase]

def isValidReveal (body : RevealSecretRequest) : Bool := hasRequired [body.passphrase]

end ModelState

/-- The actions, with the body a client sends, or `none` for one that cannot be bound. -/
inductive Endpoint where
  | createSecret (body : Option CreateSecretRequest)
  | revealSecret (body : Option RevealSecretRequest)
  | getSecretsCreatedByUser

/-- What reaches the filter: `[ApiController]` refuses a model state that is not valid. -/
def Endpoint.actionArguments : Endpoint → Option (List ActionArgument)
  | .createSecret body => (body.filter ModelState.isValidCreate).map fun request =>
      [.createSecretRequest (deserialize request)]
  | .revealSecret body => (body.filter ModelState.isValidReveal).map fun request =>
      [.revealSecretRequest request]
  | .getSecretsCreatedByUser => some []

theorem Endpoint.createSecret_bound {body : Option CreateSecretRequest}
    {actionArguments : List ActionArgument}
    (bound : (Endpoint.createSecret body).actionArguments = some actionArguments) :
    ∃ request, body = some request ∧ ModelState.isValidCreate request = true ∧
      actionArguments = [.createSecretRequest (deserialize request)] := by
  obtain ⟨request, accepted, rfl⟩ := Option.map_eq_some_iff.mp bound
  obtain ⟨given, valid⟩ := Option.filter_eq_some_iff.mp accepted
  exact ⟨request, given, valid, rfl⟩

theorem Endpoint.revealSecret_bound {body : Option RevealSecretRequest}
    {actionArguments : List ActionArgument}
    (bound : (Endpoint.revealSecret body).actionArguments = some actionArguments) :
    ∃ request, body = some request ∧ ModelState.isValidReveal request = true ∧
      actionArguments = [.revealSecretRequest request] := by
  obtain ⟨request, accepted, rfl⟩ := Option.map_eq_some_iff.mp bound
  obtain ⟨given, valid⟩ := Option.filter_eq_some_iff.mp accepted
  exact ⟨request, given, valid, rfl⟩

theorem Endpoint.createSecret_unbound {request : CreateSecretRequest}
    (unbound : (Endpoint.createSecret (some request)).actionArguments = none) :
    ¬ ModelState.isValidCreate request = true :=
  Option.filter_some_eq_none.mp (Option.map_eq_none_iff.mp unbound)

theorem Endpoint.revealSecret_unbound {request : RevealSecretRequest}
    (unbound : (Endpoint.revealSecret (some request)).actionArguments = none) :
    ¬ ModelState.isValidReveal request = true :=
  Option.filter_some_eq_none.mp (Option.map_eq_none_iff.mp unbound)

namespace SetExecutorFilter

/-- The loop over the arguments, which ends at the first `BaseRequest`. -/
def setExecutor (executor : Option Executor) : List ActionArgument → List ActionArgument
  | [] => []
  | .createSecretRequest request :: rest =>
      .createSecretRequest { request with executor } :: rest
  | argument :: rest => argument :: setExecutor executor rest

def onActionExecutionAsync {α : Type} (newUser : NewUser) (user : ClaimsPrincipal)
    (actionArguments : List ActionArgument) (next : List ActionArgument → DbTask α) :
    DbTask α := do
  let executor ← ExecutorService.tryGet newUser user
  next (setExecutor executor actionArguments)

end SetExecutorFilter

namespace BaseController

def notAuthenticated : Exception :=
  .unauthorizedAccess ⟨"User is not authenticated.", []⟩

def createBaseAuthenticatedRequest (newUser : NewUser) (user : ClaimsPrincipal) :
    DbTask BaseAuthenticatedRequest := do
  match ← ExecutorService.tryGet newUser user with
  | none => DbTask.ofExcept (.error notAuthenticated)
  | some executor => return ⟨executor⟩

end BaseController

/-- A request and what its handling takes from outside, in the filter and in the
action. -/
structure ApiRequest where
  user : ClaimsPrincipal
  endpoint : Endpoint
  filterUser : NewUser
  controllerUser : NewUser
  generated : Generated

inductive ActionResult where
  | invalidModelState
  | value (response : ServiceResponse)
  deriving DecidableEq

abbrev ApiOutcome := Except Exception ActionResult

section Requests

variable {Key : Type} (crypto : Crypto Key)

namespace SecretsController

def getSecretsCreatedByUser (newUser : NewUser) (user : ClaimsPrincipal) :
    DbTask ServiceResponse := do
  let request ← BaseController.createBaseAuthenticatedRequest newUser user
  (ServiceCall.getSecretsCreatedByUser request).task crypto

def invoke (request : ApiRequest) (actionArguments : List ActionArgument) :
    DbTask ActionResult :=
  match request.endpoint, actionArguments with
  | .createSecret _, [.createSecretRequest argument] =>
      .value <$> (ServiceCall.createSecret request.generated argument).task crypto
  | .revealSecret _, [.revealSecretRequest argument] =>
      .value <$> (ServiceCall.revealAndDisposeSecret request.generated argument).task crypto
  | .getSecretsCreatedByUser, [] =>
      .value <$> getSecretsCreatedByUser crypto request.controllerUser request.user
  | _, _ => return .invalidModelState

end SecretsController

namespace ApiRequest

/-- The filter runs only once the arguments are bound. -/
def task (request : ApiRequest) : DbTask ActionResult :=
  match request.endpoint.actionArguments with
  | none => return .invalidModelState
  | some actionArguments =>
      SetExecutorFilter.onActionExecutionAsync request.filterUser request.user
        actionArguments (SecretsController.invoke crypto request)

def program (request : ApiRequest) : Program Db ApiOutcome := (request.task crypto).run

end ApiRequest

end Requests

/-! A request with a body that cannot be bound goes no further.  Any other one is
refused in the filter or reaches its action. -/

inductive Handled {Key : Type} (crypto : Crypto Key) (request : ApiRequest) (db : Db) :
    ApiOutcome × Db → Prop
  | unbound (unbound : request.endpoint.actionArguments = none) :
      Handled crypto request db (.ok .invalidModelState, db)
  | refused {actionArguments : List ActionArgument} {exception : Exception} {provided : Db}
      (bound : request.endpoint.actionArguments = some actionArguments)
      (effect : ExecutorService.Effect request.filterUser request.user db
        (.error exception) provided) :
      Handled crypto request db (.error exception, provided)
  | granted {actionArguments : List ActionArgument} {executor : Option Executor}
      {provided : Db} (bound : request.endpoint.actionArguments = some actionArguments)
      (effect : ExecutorService.Effect request.filterUser request.user db
        (.ok executor) provided) :
      Handled crypto request db ((SecretsController.invoke crypto request
        (SetExecutorFilter.setExecutor executor actionArguments)).run.run provided)

section Runs

variable {Key : Type} {crypto : Crypto Key} {db : Db} {request : ApiRequest}
  {executor : Option Executor}

theorem handled (crypto : Crypto Key) (request : ApiRequest) (db : Db) :
    Handled crypto request db ((request.program crypto).run db) := by
  unfold ApiRequest.program ApiRequest.task
  cases bound : request.endpoint.actionArguments with
  | none => exact .unbound bound
  | some actionArguments =>
      unfold SetExecutorFilter.onActionExecutionAsync
      dsimp only
      rw [DbTask.run_bind_run]
      have effect := ExecutorService.effect request.filterUser request.user db
      generalize (ExecutorService.tryGet request.filterUser request.user).run.run db = ran
        at effect ⊢
      obtain ⟨outcome, provided⟩ := ran
      cases outcome with
      | error exception => exact .refused bound effect
      | ok executor => exact .granted bound effect

theorem invoke_createSecret {body : CreateSecretRequest}
    (endpoint : request.endpoint = .createSecret (some body)) :
    (SecretsController.invoke crypto request (SetExecutorFilter.setExecutor executor
        [.createSecretRequest (deserialize body)])).run.run db =
      let ran := ((ServiceCall.createSecret request.generated
        { body with executor }).program crypto).run db
      (ran.1.map .value, ran.2) := by
  unfold SecretsController.invoke
  rw [endpoint]
  exact DbTask.run_map_run _ _ _

theorem invoke_revealSecret {body : RevealSecretRequest}
    (endpoint : request.endpoint = .revealSecret (some body)) :
    (SecretsController.invoke crypto request (SetExecutorFilter.setExecutor executor
        [.revealSecretRequest body])).run.run db =
      let ran := ((ServiceCall.revealAndDisposeSecret request.generated body).program
        crypto).run db
      (ran.1.map .value, ran.2) := by
  unfold SecretsController.invoke
  rw [endpoint]
  exact DbTask.run_map_run _ _ _

theorem invoke_getSecretsCreatedByUser
    (endpoint : request.endpoint = .getSecretsCreatedByUser) :
    (SecretsController.invoke crypto request
        (SetExecutorFilter.setExecutor executor [])).run.run db =
      match (ExecutorService.tryGet request.controllerUser request.user).run.run db with
      | (.ok none, next) => (.error BaseController.notAuthenticated, next)
      | (.ok (some executor), next) =>
          let ran := ((ServiceCall.getSecretsCreatedByUser ⟨executor⟩).program crypto).run next
          (ran.1.map .value, ran.2)
      | (.error exception, next) => (.error exception, next) := by
  unfold SecretsController.invoke
  rw [endpoint]
  change (ActionResult.value <$> SecretsController.getSecretsCreatedByUser crypto
    request.controllerUser request.user).run.run db = _
  unfold SecretsController.getSecretsCreatedByUser
    BaseController.createBaseAuthenticatedRequest
  rw [DbTask.run_map_run, DbTask.run_bind_run, DbTask.run_bind_run]
  generalize (ExecutorService.tryGet request.controllerUser request.user).run.run db = ran
  obtain ⟨outcome, next⟩ := ran
  cases outcome with
  | error exception => rfl
  | ok executor => cases executor <;> rfl

end Runs

end SecretServer.Api
