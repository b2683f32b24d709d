import DeviceLink.Shadow.Model
import DeviceLink.Topic.Exchange

/-!
# Operations of the shadow service

Every operation comes in two variants, one for the classic shadow of a thing and
one for its named shadows.  The variants have different templates; the address
picks the named one as soon as it carries a shadow name, even an empty one.
-/

namespace DeviceLink.Shadow

def service : String := "shadow"

structure Variants where
  classic : Operation
  named : Operation

def variants (classicName namedName path : String) (kind : OperationKind) : Variants where
  classic := ⟨service, classicName, "$aws/things/\x7bthingName\x7d/shadow/" ++ path, kind⟩
  named :=
    ⟨service, namedName,
      "$aws/things/\x7bthingName\x7d/shadow/name/\x7bshadowName\x7d/" ++ path, kind⟩

def Variants.select (v : Variants) (address : ShadowAddress) : Operation :=
  if address.shadowName.isSome then v.named else v.classic

def getShadow : Variants := variants "GetShadow" "GetNamedShadow" "get" .requestResponse
def updateShadow : Variants := variants "UpdateShadow" "UpdateNamedShadow" "update" .requestResponse
def deleteShadow : Variants := variants "DeleteShadow" "DeleteNamedShadow" "delete" .requestResponse
def shadowDeltaUpdated : Variants :=
  variants "ShadowDeltaUpdated" "NamedShadowDeltaUpdated" "update/delta" .event
def shadowUpdated : Variants :=
  variants "ShadowUpdated" "NamedShadowUpdated" "update/documents" .event

def operations : List Variants :=
  [getShadow, updateShadow, deleteShadow, shadowDeltaUpdated, shadowUpdated]

def getting : Exchange ShadowAddress GetShadowRequest GetShadowResponse ErrorResponse :=
  ⟨getShadow.select⟩

def updating : Exchange ShadowAddress UpdateShadowRequest UpdateShadowResponse ErrorResponse :=
  ⟨updateShadow.select⟩

def deleting : Exchange ShadowAddress DeleteShadowRequest DeleteShadowResponse ErrorResponse :=
  ⟨deleteShadow.select⟩

def deltaUpdated : EventStream ShadowAddress ShadowDeltaUpdatedEvent :=
  ⟨shadowDeltaUpdated.select⟩

/-- Changes of a shadow, with the shadow before and after each. -/
def updated : EventStream ShadowAddress ShadowUpdatedEvent :=
  ⟨shadowUpdated.select⟩

end DeviceLink.Shadow
