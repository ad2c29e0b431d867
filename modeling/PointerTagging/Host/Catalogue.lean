/-!
# The programs of the host

Which programs there are, and the names under which they stand in the directory of programs.
-/

namespace PointerTagging.Host

/-- The programs of the host. -/
inductive Utility where
  /-- The program that launches others with a library preloaded. -/
  | launcher
  | arch
  | awk
  | base32
  | base64
  | basename
  | bash
  | cat
  | chgrp
  | chmod
  | chown
  | cksum
  | cmp
  | comm
  | cp
  | cut
  | date
  | dd
  | diff
  | dirname
  | echo
  | egrep
  | env
  | expand
  | expr
  | factor
  | false
  | fgrep
  | find
  | fold
  | grep
  | groups
  | head
  | id
  | install
  | join
  | link
  | ln
  | logname
  | ls
  | md5sum
  | mkdir
  | mktemp
  | mv
  | nice
  | nl
  | nohup
  | nproc
  | numfmt
  | od
  | paste
  | pathchk
  | perl
  | printenv
  | printf
  | pwd
  | readlink
  | realpath
  | rev
  | rm
  | rmdir
  | sed
  | seq
  | setsid
  | sha1sum
  | sha224sum
  | sha256sum
  | sha384sum
  | sha512sum
  | shell
  | shuf
  | sleep
  | sort
  | split
  | stat
  | stdbuf
  | sum
  | sync
  | tac
  | tail
  | tee
  | test
  | timeout
  | touch
  | tr
  | true
  | truncate
  | tsort
  | tty
  | uname
  | unexpand
  | uniq
  | unlink
  | users
  | wc
  | which
  | who
  | whoami
  | xargs
  | yes
  deriving DecidableEq, Repr

namespace Utility

/-- The names of the programs, in their order. -/
def names : List (String × Utility) :=
  [("[", .test), ("arch", .arch), ("base32", .base32), ("base64", .base64),
    ("basename", .basename), ("bash", .bash), ("cat", .cat), ("chgrp", .chgrp),
    ("chmod", .chmod), ("chown", .chown), ("cksum", .cksum), ("cmp", .cmp), ("comm", .comm),
    ("cp", .cp), ("cut", .cut), ("dash", .shell), ("date", .date), ("dd", .dd), ("diff", .diff),
    ("dirname", .dirname), ("echo", .echo), ("egrep", .egrep), ("env", .env),
    ("expand", .expand), ("expr", .expr), ("factor", .factor), ("false", .false),
    ("fgrep", .fgrep), ("find", .find), ("fold", .fold), ("grep", .grep), ("groups", .groups),
    ("head", .head), ("id", .id), ("install", .install), ("join", .join), ("link", .link),
    ("ln", .ln), ("logname", .logname), ("ls", .ls), ("mawk", .awk), ("md5sum", .md5sum),
    ("mkdir", .mkdir), ("mktemp", .mktemp), ("mv", .mv), ("nice", .nice), ("nl", .nl),
    ("nohup", .nohup), ("nproc", .nproc), ("numfmt", .numfmt), ("od", .od), ("paste", .paste),
    ("pathchk", .pathchk), ("perl", .perl), ("printenv", .printenv), ("printf", .printf),
    ("pwd", .pwd), ("readlink", .readlink), ("realpath", .realpath), ("rev", .rev), ("rm", .rm),
    ("rmdir", .rmdir), ("sed", .sed), ("seq", .seq), ("setsid", .setsid), ("sha1sum", .sha1sum),
    ("sha224sum", .sha224sum), ("sha256sum", .sha256sum), ("sha384sum", .sha384sum),
    ("sha512sum", .sha512sum), ("shuf", .shuf), ("sleep", .sleep), ("sort", .sort),
    ("split", .split), ("stat", .stat), ("stdbuf", .stdbuf), ("sum", .sum), ("sync", .sync),
    ("tac", .tac), ("tail", .tail), ("tee", .tee), ("test", .test), ("timeout", .timeout),
    ("touch", .touch), ("tr", .tr), ("true", .true), ("truncate", .truncate), ("tsort", .tsort),
    ("tty", .tty), ("uname", .uname), ("unexpand", .unexpand), ("uniq", .uniq),
    ("unlink", .unlink), ("users", .users), ("wc", .wc), ("which", .which), ("who", .who),
    ("whoami", .whoami), ("xargs", .xargs), ("yes", .yes)]

/-- The links among the programs. -/
def links : List (String × String) :=
  [("awk", "/etc/alternatives/awk"), ("nawk", "/etc/alternatives/nawk"), ("rbash", "bash"),
    ("sh", "dash")]

end Utility

end PointerTagging.Host
