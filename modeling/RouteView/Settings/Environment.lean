import RouteView.Settings.Basic
import RouteView.Text.Blank
import RouteView.Text.CaseMap

/-!
# Settings from the environment

Variables of the environment override single settings.  There is none for automatic escaping.
-/
set_option autoImplicit false
namespace RouteView

abbrev Environment := Text → Option Text

namespace Settings

/-- The words that switch debugging on, in any case. -/
def isYes (word : Text) : Bool :=
  let lower := Text.toLower word
  lower = "true".toList || lower = "1".toList || lower = "yes".toList

/-- The items between commas, trimmed, without the empty ones. -/
def splitDirs (list : Text) : List Text := ((Text.splitOn ',' list).map Text.trim).filter (· ≠ [])

/-- The settings with the variables of an environment on top. -/
def override (s : Settings) (env : Environment) : Settings where
  debug := ((env "TRELLIS_DEBUG").map isYes).getD s.debug
  bindAddress := (env "TRELLIS_BIND_ADDRESS").getD s.bindAddress
  viewDirs := ((env "TRELLIS_VIEW_DIRS").map splitDirs).getD s.viewDirs
  viewExtension :=
    ((env "TRELLIS_VIEW_EXTENSION").map fun ext => ext.dropWhile (· = '.')).getD s.viewExtension
  layout := match env "TRELLIS_LAYOUT" with
    | none => s.layout
    | some [] => none
    | some layout => some layout
  autoEscape := s.autoEscape
  logLevel := (env "TRELLIS_LOG_LEVEL").getD s.logLevel

def ofEnvironment (env : Environment) : Settings := default.override env

end Settings
end RouteView
