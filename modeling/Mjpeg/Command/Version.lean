import Mjpeg.Stream.Config

/-!
# The version of the program
-/

namespace Mjpeg.Command.Version

/-- Where and from what the program was built. -/
structure Build where
  target : String
  os : String
  arch : String
  compiler : String
  revision : String
  deriving Repr, DecidableEq

/-- The name of the program. -/
def name : String := "snapshooter"

/-- The number of the version. -/
def number : String := "0.2.1"

/-- The line that names the program and its version. -/
def line : String := name ++ " " ++ number

/-- The lines about the version, the build, and what is built in. -/
def extendedLines (b : Build) : List String :=
  let config : Stream.Config := {}
  ["name: " ++ name, "version: " ++ number, "target: " ++ b.target, "target_os: " ++ b.os,
    "target_arch: " ++ b.arch, "rustc: " ++ b.compiler, "git_hash: " ++ b.revision,
    "features: stream=true, http=true, cli=true",
    "defaults: retry_delay=" ++ config.retryDelay.display ++ ", idle_timeout=" ++
      config.idleTimeout.display ++ ", max_buffer=" ++ toString config.maxBuffer]

end Mjpeg.Command.Version
