import CEMonitor.Infra.Regex
import CEMonitor.Infra.Text

/-!
# `cliUtils`: what all commands share

The default credential files, and the check of the URL that every command is given.
-/

namespace CEMonitor

open Infra

namespace CliUtils

/-- What the process inherits: the variables the commands read, and its user. -/
structure Environment where
  x509UserCert : Option String
  x509UserKey : Option String
  x509UserProxy : Option String
  uid : Nat

/-- `cliUtils::getCertificateFile`. -/
def getCertificateFile (env : Environment) : String :=
  match env.x509UserCert with
  | some cert => cert
  | none =>
    match env.x509UserProxy with
    | some proxy => proxy
    | none => "/tmp/x509up_u" ++ toString env.uid

/-- `cliUtils::getKeyFile`. -/
def getKeyFile (env : Environment) : String :=
  match env.x509UserKey with
  | some key => key
  | none =>
    match env.x509UserProxy with
    | some proxy => proxy
    | none => "/tmp/x509up_u" ++ toString env.uid

/-! ## The URL -/

/-- `[^/:]`. -/
def notSlashColon (c : Char) : Bool := c ≠ '/' && c ≠ ':'

/-- `^(https?)://([^/:]+)(:[0-9]+)/ce-monitor/services/CEMonitor`. -/
def urlPattern1 : Regex Char :=
  .seq .bol <|
  .seq (.group 1 (.seq (.lit "http".toList) (.opt (.lit "s".toList)))) <|
  .seq (.lit "://".toList) <|
  .seq (.group 2 (.plus (.cls notSlashColon))) <|
  .seq (.group 3 (.seq (.lit ":".toList) (.plus (.cls Char.isDigit))))
    (.lit "/ce-monitor/services/CEMonitor".toList)

/-- `^([^/:]+)(:[0-9]+)?`. -/
def urlPattern2 : Regex Char :=
  .seq .bol <|
  .seq (.group 1 (.plus (.cls notSlashColon)))
    (.opt (.group 2 (.seq (.lit ":".toList) (.plus (.cls Char.isDigit)))))

/-- `cliUtils::checkCEMonURL`. Both patterns are matched against `url.c_str()`. -/
def checkCEMonURL (url : String) : String :=
  match Regex.fullMatch urlPattern1 (Text.cStr url).toList with
  | none =>
    match Regex.fullMatch urlPattern2 (Text.cStr url).toList with
    | some what =>
      if Regex.capture what 2 = [] then
        "https://" ++ String.ofList (Regex.capture what 1) ++ ":8443/ce-monitor/services/CEMonitor"
      else "https://" ++ url ++ "/ce-monitor/services/CEMonitor"
    | none => ""
  | some _ => url

end CliUtils

end CEMonitor
