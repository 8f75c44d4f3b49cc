import SmlMcps.SessionSteps

/-! The identity a token carries. A validator checks the token with a library, then the
claims itself. Subject and effective tenant are composed into the owner that tasks
belong to, and owner and identifier into the key a session is filed under: both with
a separator that no accepted subject or tenant contains. -/
namespace SmlMcps

inductive Audience where
  | one (value : String)
  | many (values : List String)
  deriving DecidableEq

def Audience.values : Audience → List String
  | .one value => [value]
  | .many values => values

def Audience.contains (audience : Audience) (resource : String) : Bool :=
  audience.values.any fun value => value == resource

structure Claims where
  sub : String
  exp : Nat
  iat : Nat
  iss : Option String
  aud : Option Audience
  tenantId : Option String
  scope : Option String

namespace Claims

def userId (claims : Claims) : String := claims.sub

/-- `tenant_id()`: the tenant, or the user where there is none. -/
def effectiveTenant (claims : Claims) : String := claims.tenantId.getD claims.sub

end Claims

/-- `validationFailed` carries the problem the library reports. -/
inductive JwtError where
  | validationFailed (problem : String)
  | invalidAudience
  | malformedClaim
  deriving DecidableEq

/-- `decode` is the library's part: the signature, the times and the issuer. -/
structure JwtValidator where
  decode : String → Except String Claims
  audiences : List String

def carriesSeparator (claim : String) : Bool := claim.toList.contains identitySeparator

def JwtValidator.validate (validator : JwtValidator) (token : String) :
    Except JwtError Claims :=
  match validator.decode token with
  | .error problem => .error (.validationFailed problem)
  | .ok claims =>
    if carriesSeparator claims.sub || claims.tenantId.any carriesSeparator then
      .error .malformedClaim
    else if !validator.audiences.isEmpty && !claims.aud.any fun audience =>
        validator.audiences.any fun want => audience.contains want then
      .error .invalidAudience
    else .ok claims

/-- Who a request belongs to. -/
def ownerOf (claims : Claims) : String :=
  claims.userId ++ String.ofList [identitySeparator] ++ claims.effectiveTenant

/-- The claims of a token the validator lets through. -/
def JwtValidator.Accepts (validator : JwtValidator) (claims : Claims) : Prop :=
  ∃ token, validator.validate token = .ok claims

/-- Two tokens of one identity: the same subject and the same effective tenant. -/
structure SameIdentity (claims other : Claims) : Prop where
  user : claims.userId = other.userId
  tenant : claims.effectiveTenant = other.effectiveTenant

namespace JwtValidator.Accepts

variable {validator : JwtValidator} {claims other : Claims}

/-- The separator stays a separator. -/
theorem plain (accepted : validator.Accepts claims) :
    identitySeparator ∉ claims.userId.toList ∧
      identitySeparator ∉ claims.effectiveTenant.toList := by
  obtain ⟨token,validated⟩ := accepted
  unfold validate at validated
  split at validated
  · cases validated
  · rename_i decoded _
    split at validated
    · cases validated
    · rename_i clean
      split at validated
      · cases validated
      · cases validated
        simp only [carriesSeparator,Bool.or_eq_true,not_or,Bool.not_eq_true] at clean
        obtain ⟨subject,tenant⟩ := clean
        have plainSubject : identitySeparator ∉ claims.sub.toList := by simpa using subject
        refine ⟨plainSubject,?_⟩
        unfold Claims.effectiveTenant
        cases held : claims.tenantId with
        | none => exact plainSubject
        | some named =>
          rw [held] at tenant
          simpa [carriesSeparator] using tenant

end JwtValidator.Accepts

/-- What stands before the first separator, and what after it, can be read back. -/
theorem append_separator_inj {front front' back back' : List Char}
    (plain : identitySeparator ∉ front) (plain' : identitySeparator ∉ front')
    (same : front ++ identitySeparator :: back = front' ++ identitySeparator :: back') :
    front = front' ∧ back = back' := by
  have kept {text : List Char} (free : identitySeparator ∉ text) :
      ∀ c ∈ text, (c != identitySeparator) = true := by
    intro c member
    have different : c ≠ identitySeparator := fun here => free (here ▸ member)
    simpa using different
  have fronts := congrArg (List.takeWhile fun c => c != identitySeparator) same
  rw [takeWhile_stop _ _ _ _ (kept plain) (by simp),
    takeWhile_stop _ _ _ _ (kept plain') (by simp)] at fronts
  subst fronts
  have backs := List.append_cancel_left same
  exact ⟨rfl,(List.cons.inj backs).2⟩

section Composition

variable {validator : JwtValidator} {claims other : Claims}

theorem toList_ownerOf (claims : Claims) : (ownerOf claims).toList =
    claims.userId.toList ++ identitySeparator :: claims.effectiveTenant.toList := by
  simp [ownerOf]

theorem toList_key (claims : Claims) (id : String) :
    (Sessions.key (some (ownerOf claims)) id).toList = claims.userId.toList ++
      identitySeparator :: (claims.effectiveTenant.toList ++ identitySeparator :: id.toList) := by
  simp [Sessions.key,ownerOf]

theorem ownerOf_eq_iff (accepted : validator.Accepts claims) (accepted' : validator.Accepts other) :
    ownerOf claims = ownerOf other ↔ SameIdentity claims other := by
  constructor
  · intro same
    have chars := congrArg String.toList same
    rw [toList_ownerOf,toList_ownerOf] at chars
    obtain ⟨user,tenant⟩ := append_separator_inj accepted.plain.1 accepted'.plain.1 chars
    exact ⟨String.toList_inj.mp user,String.toList_inj.mp tenant⟩
  · rintro ⟨user,tenant⟩
    simp only [ownerOf,user,tenant]

/-- A key determines the identity and the identifier, whatever the identifier holds. -/
theorem key_eq_iff (accepted : validator.Accepts claims) (accepted' : validator.Accepts other)
    (id id' : String) :
    Sessions.key (some (ownerOf claims)) id = Sessions.key (some (ownerOf other)) id' ↔
      SameIdentity claims other ∧ id = id' := by
  constructor
  · intro same
    have chars := congrArg String.toList same
    rw [toList_key,toList_key] at chars
    obtain ⟨user,rest⟩ := append_separator_inj accepted.plain.1 accepted'.plain.1 chars
    obtain ⟨tenant,identifier⟩ := append_separator_inj accepted.plain.2 accepted'.plain.2 rest
    exact ⟨⟨String.toList_inj.mp user,String.toList_inj.mp tenant⟩,String.toList_inj.mp identifier⟩
  · rintro ⟨same,rfl⟩
    rw [(ownerOf_eq_iff accepted accepted').mpr same]

end Composition

end SmlMcps
