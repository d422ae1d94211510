import AqlGateway.Command.Options
import AqlGateway.Settings.Basic
import AqlGateway.Shell.Session

/-!
# Starting the shell

* `Shell.configured?` — the settings of the remote engine with those of the arguments over them;
* `Shell.launch` — the whole program.
-/

namespace AqlGateway.Shell

open Remote

/-- The long names of the shell's short options. -/
def shortOptions : List (Char × String) := [('H', "host"), ('p', "port"), ('c', "config")]

/-- The settings of the remote engine with those of the arguments over them; none when the port is
no port. -/
def configured? (options : Options) (settings : RemoteSettings) : Option RemoteSettings := do
  let port ← match options.value? "port" with
    | none => some settings.port
    | some text => (Settings.Entry.text text).asUnsigned? UInt16.size
  pure { settings with host := (options.value? "host").getD settings.host, port := port }

/-- Runs the program with the settings at hand; `network` gives the client's side of the network on
which it dials an address. -/
def launch (arguments : List String) (settings : Except Error Settings)
    (network : String → Link) (input : List UInt8) : Console :=
  let console : Console := {}
  match settings with
  | .error e => console.fail Settings.unsettled (e.message :: e.sources)
  | .ok settings => match configured? (Options.ofList shortOptions arguments) settings.remote with
    | none => { console.warn "error: invalid port" with code := 2 }
    | some remote =>
      (run ⟨remote.address, remote.client⟩ (network remote.address) input).console

end AqlGateway.Shell
