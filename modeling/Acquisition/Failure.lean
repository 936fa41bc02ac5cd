import Acquisition.ConfigError
import Acquisition.Frame.Error
import Acquisition.Link.Basic

/-!
# Why a device cannot be set up or driven
-/

namespace Acquisition

inductive Failure
  | link (cause : LinkError)
  | frame (cause : FrameError)
  | config (reason : String)
  /-- A configuration file is not the JSON that is asked for. -/
  | json
  | system (cause : SystemError)
deriving DecidableEq

namespace Failure

def ofConfigError (e : ConfigError) : Failure := .config e.message

def message : Failure → String
  | link cause => s!"transport error: {cause.message}"
  | frame cause => s!"frame error: {cause.message}"
  | config reason => s!"invalid configuration: {reason}"
  | json => "json error: not a device configuration"
  | system cause => s!"i/o error: {cause.text}"

end Failure

end Acquisition
