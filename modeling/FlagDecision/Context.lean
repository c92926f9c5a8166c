import FlagDecision.Attribute
import FlagDecision.Json.Decode
import FlagDecision.Table
import FlagDecision.Text.Blank

/-!
The user a flag is evaluated for, and where the attributes come from that the user does not carry.
-/

namespace FlagDecision

open Json (Decoder Field)

/-- Where a user is. -/
structure Location where
  country : Option String := none
  region : Option String := none
  city : Option String := none
  deriving DecidableEq, Repr

/-- The parts of a location that segments name. -/
inductive LocationField where
  | country
  | region
  | city
  deriving DecidableEq, Repr

namespace Location

def get? (l : Location) : LocationField → Option String
  | .country => l.country
  | .region => l.region
  | .city => l.city

/-- A location as a record of three texts. -/
def decoder : Decoder Location := Decoder.record [
  .listed "country" (.nullable .text) fun v l => { l with country := v },
  .listed "region" (.nullable .text) fun v l => { l with region := v },
  .listed "city" (.nullable .text) fun v l => { l with city := v }] {}

end Location

namespace LocationField

def ofKey? : String → Option LocationField
  | "country" => some country
  | "region" => some region
  | "city" => some city
  | _ => none

def key : LocationField → String
  | country => "country"
  | region => "region"
  | city => "city"

end LocationField

/-- What a user agent turned out to be. -/
structure AgentInfo where
  os : Option String := none
  browser : Option String := none
  deviceType : Option String := none
  device : Option String := none
  deriving DecidableEq, Repr

/-- The parts of a user agent that segments name. -/
inductive AgentField where
  | os
  | browser
  | deviceType
  | device
  deriving DecidableEq, Repr

namespace AgentInfo

def get? (a : AgentInfo) : AgentField → Option String
  | .os => a.os
  | .browser => a.browser
  | .deviceType => a.deviceType
  | .device => a.device

/-- A user agent as a record of four texts. -/
def decoder : Decoder AgentInfo := Decoder.record [
  .listed "os" (.nullable .text) fun v a => { a with os := v },
  .listed "browser" (.nullable .text) fun v a => { a with browser := v },
  .listed "deviceType" (.nullable .text) fun v a => { a with deviceType := v },
  .listed "device" (.nullable .text) fun v a => { a with device := v }] {}

end AgentInfo

namespace AgentField

def ofKey? : String → Option AgentField
  | "os" => some os
  | "browser_string" => some browser
  | "device_type" => some deviceType
  | "device" => some device
  | _ => none

def key : AgentField → String
  | os => "os"
  | browser => "browser_string"
  | deviceType => "device_type"
  | device => "device"

end AgentField

/-- Properties of the device that the host supplies. -/
inductive DeviceAttribute where
  | deviceModel
  | locale
  | appVersion
  | osVersion
  | manufacturer
  deriving DecidableEq, Repr

namespace DeviceAttribute

def ofKey? : String → Option DeviceAttribute
  | "device_model" => some deviceModel
  | "locale" => some locale
  | "app_version" => some appVersion
  | "os_version" => some osVersion
  | "manufacturer" => some manufacturer
  | _ => none

def key : DeviceAttribute → String
  | deviceModel => "device_model"
  | locale => "locale"
  | appVersion => "app_version"
  | osVersion => "os_version"
  | manufacturer => "manufacturer"

end DeviceAttribute

/-- Attributes by name. -/
abbrev Attributes : Type := Table String Attribute

/-- A JSON object of attributes. -/
def Attributes.decoder : Decoder Attributes := fun depth r => do
  return Table.ofEntries (← Decoder.members some (Decoder.interpreted Attribute.firstFit?) depth r)

/-- The user a flag is evaluated for. The custom attributes are for targeting, the targeting
attributes only for whitelisting. -/
structure UserContext where
  id : String
  custom : Attributes := []
  targeting : Attributes := []
  userAgent : Option String := none
  ipAddress : Option String := none
  location : Option Location := none
  agentInfo : Option AgentInfo := none
  device : Table DeviceAttribute String := []

/-- A blank id disables every flag. -/
def UserContext.isBlank (c : UserContext) : Bool := c.id.toList.all Text.isBlank

/-- Supplies what the user may not carry. Where nothing is supplied, the condition fails. As
functions, its parts supply the same for the same user, however often they are asked. -/
structure AttributeProvider where
  location : UserContext → Option Location
  userAgent : UserContext → Option String
  agentInfo : UserContext → Option AgentInfo
  device : UserContext → DeviceAttribute → Option String

/-- Everything comes from the user. -/
def AttributeProvider.ofUser : AttributeProvider where
  location := UserContext.location
  userAgent := UserContext.userAgent
  agentInfo := UserContext.agentInfo
  device := fun c a => c.device.lookup a

end FlagDecision
