import PointerTagging.Host.Sed
import PointerTagging.Host.Utility.Access
import PointerTagging.Host.Utility.Backwards
import PointerTagging.Host.Utility.Blocks
import PointerTagging.Host.Utility.Calculation
import PointerTagging.Host.Utility.Coding
import PointerTagging.Host.Utility.Columns
import PointerTagging.Host.Utility.Copying
import PointerTagging.Host.Utility.Counting
import PointerTagging.Host.Utility.Dates
import PointerTagging.Host.Utility.Difference
import PointerTagging.Host.Utility.Dump
import PointerTagging.Host.Utility.Joining
import PointerTagging.Host.Utility.Linking
import PointerTagging.Host.Utility.Listing
import PointerTagging.Host.Utility.Making
import PointerTagging.Host.Utility.Numbering
import PointerTagging.Host.Utility.Particulars
import PointerTagging.Host.Utility.Paths
import PointerTagging.Host.Utility.Pieces
import PointerTagging.Host.Utility.Portion
import PointerTagging.Host.Utility.Removing
import PointerTagging.Host.Utility.Repeats
import PointerTagging.Host.Utility.Scaling
import PointerTagging.Host.Utility.Search
import PointerTagging.Host.Utility.Sequence
import PointerTagging.Host.Utility.Showing
import PointerTagging.Host.Utility.Sorting
import PointerTagging.Host.Utility.Starting
import PointerTagging.Host.Utility.Streams
import PointerTagging.Host.Utility.Tabs
import PointerTagging.Host.Utility.Translation
/-!
# Utilities

What the utilities do that start no other program, and what they do if nothing takes what they
print.
-/

namespace PointerTagging.Host.Tool

/-- What a utility does that starts no other program. -/
def perform (utility : Utility) (view : View) : Outcome :=
  match utility with
  | .arch => remark "x86_64\n" view
  | .base32 => coding .thirtyTwo view
  | .base64 => coding .sixtyFour view
  | .basename => basename view
  | .cat => cat view
  | .chgrp => chgrp view
  | .chmod => chmod view
  | .chown => chown view
  | .cksum => cksum view
  | .cmp => cmp view
  | .comm => comm view
  | .cp => cp view
  | .cut => cut view
  | .date => date view
  | .dd => dd view
  | .diff => diff view
  | .dirname => dirname view
  | .echo => .printing (Host.echo .utility view.arguments)
  | .egrep => oldGrep "-E" view
  | .expand => expand view
  | .expr => expr view
  | .factor => factor view
  | .false => .quiet 1
  | .fgrep => oldGrep "-F" view
  | .fold => fold view
  | .grep => grep view
  | .groups => groups view
  | .head => head view
  | .id => id view
  | .install => install view
  | .join => join view
  | .link => link view
  | .ln => ln view
  | .logname => logname view
  | .ls => ls view
  | .md5sum => digest "MD5" Digest.md5 view
  | .mkdir => mkdir view
  | .mktemp => mktemp view
  | .mv => mv view
  | .nl => nl view
  | .nproc => nproc view
  | .numfmt => numfmt view
  | .od => od view
  | .paste => paste view
  | .pathchk => pathchk view
  | .printenv => printenv view
  | .printf => printf view
  | .pwd => pwd view
  | .readlink => readlink view
  | .realpath => realpath view
  | .rev => rev view
  | .rm => rm view
  | .rmdir => rmdir view
  | .sed => sed view
  | .seq => seq view
  | .sha1sum => digest "SHA1" Digest.sha1 view
  | .sha224sum => digest "SHA224" Digest.sha224 view
  | .sha256sum => digest "SHA256" Digest.sha256 view
  | .sha384sum => digest "SHA384" Digest.sha384 view
  | .sha512sum => digest "SHA512" Digest.sha512 view
  | .shuf => shuf view
  | .sleep => sleep view
  | .sort => sort view
  | .split => split view
  | .stat => stat view
  | .sum => sum view
  | .tac => tac view
  | .tail => tail view
  | .tee => tee view
  | .test => test view
  | .touch => touch view
  | .tr => tr view
  | .truncate => truncate view
  | .tsort => tsort view
  | .tty => tty view
  | .uname => uname view
  | .unexpand => unexpand view
  | .uniq => uniq view
  | .unlink => unlink view
  | .wc => wc view
  | .which => which view
  | .whoami => whoami view
  | .yes => yes view
  | _ => .quiet 0

/-- What a utility comes to. -/
def plan (utility : Utility) (view : View) (context : Context) : Plan :=
  match utility with
  | .env => env view context
  | .nice => nice view context
  | .nohup => nohup view context
  | .setsid => setsid view context
  | .stdbuf => stdbuf view context
  | .timeout => timeout view context
  | .xargs => xargs view context
  | utility => .finished (perform utility view)

/-- What a utility says, and the code that it returns, if the system refuses what it prints. -/
def lostOutput (utility : Utility) (name : String) (error : SystemError) : String × Nat :=
  let isClosed := error == .badDescriptor
  let say (text : String) : String := name ++ ": " ++ text ++ "\n"
  let plain := say ("write error: " ++ error.text)
  let named := say ("standard output: " ++ error.text)
  let quoted := say ("'standard output': " ++ error.text)
  let brief := if isClosed then plain else say "write error"
  match utility with
  | .awk => (say ("close failed on file \"/dev/stdout\" (" ++ error.text ++ ")"), 2)
  | .cat => (if isClosed then named else plain, 1)
  | .cmp => (named, 2)
  | .dd =>
    (say ("writing to 'standard output': " ++ error.text) ++
      (if isClosed then say ("closing output file 'standard output': " ++ error.text) else ""), 1)
  | .diff => (named, 2)
  | .env => (plain, 125)
  | .expr => (plain, 3)
  | .find => (quoted ++ brief, 1)
  | .grep => (plain, 2)
  | .ls => (plain, 2)
  | .md5sum => (brief, 1)
  | .perl => ("Unable to flush stdout: " ++ error.text ++ "\n", 1)
  | .printenv => (plain, 2)
  | .sed =>
    (say ("couldn't " ++ (if isClosed then "close" else "flush") ++ " stdout: " ++ error.text), 4)
  | .sha1sum => (brief, 1)
  | .sha224sum => (brief, 1)
  | .sha256sum => (brief, 1)
  | .sha384sum => (brief, 1)
  | .sha512sum => (brief, 1)
  | .sort => (say ("fflush failed: 'standard output': " ++ error.text) ++ say "write error", 2)
  | .tee => (quoted, 1)
  | .wc => (brief, 1)
  | .yes => (named, 1)
  | _ => (plain, 1)

end PointerTagging.Host.Tool
