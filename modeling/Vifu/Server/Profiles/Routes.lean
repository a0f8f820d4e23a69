import Vifu.Runtime.Records
import Vifu.Server.Profiles.Tables

/-!
# Routes to the capabilities of profiles
-/

namespace Vifu.Server

open Vifu.Gateway
open Vifu.Runtime (Value)

structure ProfileRoute where
  profileId : Uuid
  profileSlug : String
  profileName : String
  profileVersionId : Uuid
  versionNumber : ℕ
  capabilityId : Uuid
  capabilityKind : String
  providerType : String
  providerKey : String
  resourceId : Option String
  capabilityConfig : Value
  persona : Value
  runtime : Value
  presentation : Value
  source : Value
  deriving DecidableEq

end Vifu.Server
