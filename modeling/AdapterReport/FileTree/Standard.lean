import AdapterReport.FileTree

/-!
# The files that every host has

`blank` is a tree with the directories, devices and programs of every host and an empty working
directory. Programs lie in one directory below `/usr`; the older places are links to it.
-/

namespace AdapterReport.FileTree

/-- The full path that a text spells. -/
def fullPath (path : String) : List EntryName :=
  (Text.splitOn (0x2F : UInt8) (Text.Utf8.encode path)).filter (!·.isEmpty)

/-- The directories that every host has. -/
def standardDirectories : List String :=
  ["boot", "dev", "dev/mqueue", "dev/pts", "dev/shm", "etc", "etc/alternatives", "etc/cron.d",
    "etc/default", "etc/init.d", "etc/skel", "etc/ssl", "home", "media", "mnt", "opt", "proc",
    "proc/1", "proc/bus", "proc/driver", "proc/fs", "proc/irq", "proc/self", "proc/self/attr",
    "proc/self/fd", "proc/self/fdinfo", "proc/self/net", "proc/self/ns", "proc/self/task",
    "proc/sys", "proc/sys/fs", "proc/sys/kernel", "proc/sys/net", "proc/sys/vm", "proc/sysvipc",
    "proc/tty", "root", "run", "srv", "sys", "sys/block", "sys/bus", "sys/class", "sys/class/net",
    "sys/dev", "sys/devices", "sys/firmware", "sys/fs", "sys/kernel", "sys/module", "sys/power",
    "tmp", "usr", "usr/bin", "usr/games", "usr/include", "usr/lib", "usr/lib64", "usr/local",
    "usr/local/bin", "usr/sbin", "usr/share", "usr/src", "var", "var/cache", "var/lib", "var/log",
    "var/mail", "var/opt", "var/spool", "var/tmp"]

/-- The links that every host has, and where they lead. -/
def standardLinks : List (String × String) :=
  [("bin", "usr/bin"), ("lib", "usr/lib"), ("lib64", "usr/lib64"), ("sbin", "usr/sbin"),
    ("usr/bin/sh", "dash"), ("dev/fd", "/proc/self/fd"), ("dev/stdin", "/proc/self/fd/0"),
    ("dev/stdout", "/proc/self/fd/1"), ("dev/stderr", "/proc/self/fd/2"),
    ("etc/mtab", "/proc/mounts"), ("etc/os-release", "../usr/lib/os-release"),
    ("proc/mounts", "self/mounts"), ("proc/net", "self/net"),
    ("proc/self/exe", "/usr/bin/cat"), ("proc/self/root", "/"), ("proc/thread-self", "self"),
    ("var/lock", "/run"), ("var/run", "/run")]

/-- The devices that every host has, and what every process has opened. -/
def standardDevices : List (String × Entry) :=
  [("dev/null", .void), ("dev/zero", .zeros), ("dev/random", .zeros), ("dev/urandom", .zeros),
    ("dev/full", .full), ("dev/tty", .terminal), ("proc/self/fd/0", .descriptor 0),
    ("proc/self/fd/1", .descriptor 1), ("proc/self/fd/2", .descriptor 2)]

/-- The text files that every host has, and what they may hold. -/
def standardFiles : List (String × String) :=
  [("etc/bash.bashrc", "PS1='# '\n"), ("etc/debian_version", "12.0\n"),
    ("etc/environment", "PATH=/usr/bin:/bin\n"), ("etc/fstab", "# none\n"),
    ("etc/group", "root:x:0:\n"), ("etc/gshadow", "root:*::\n"), ("etc/host.conf", "multi on\n"),
    ("etc/hostname", "localhost\n"), ("etc/hosts", "127.0.0.1\tlocalhost\n"),
    ("etc/issue", "Linux\n"), ("etc/ld.so.conf", "/usr/local/lib\n"),
    ("etc/login.defs", "UMASK 022\n"), ("etc/lsb-release", "DISTRIB_ID=Linux\n"),
    ("etc/nsswitch.conf", "passwd: files\n"), ("etc/passwd", "root:x:0:0:root:/root:/bin/sh\n"),
    ("etc/profile", "umask 022\n"), ("etc/resolv.conf", "nameserver 127.0.0.1\n"),
    ("etc/shadow", "root:*:0:0:99999:7:::\n"), ("etc/shells", "/bin/sh\n"),
    ("proc/cmdline", "quiet\n"), ("proc/consoles", "tty0\n"), ("proc/cpuinfo", "processor\t: 0\n"),
    ("proc/crypto", "name : none\n"), ("proc/devices", "Block devices:\n"),
    ("proc/diskstats", "\n"), ("proc/filesystems", "nodev\tproc\n"),
    ("proc/interrupts", "CPU0\n"), ("proc/iomem", "\n"), ("proc/ioports", "\n"),
    ("proc/loadavg", "0.00 0.00 0.00 1/1 1\n"), ("proc/locks", ""),
    ("proc/meminfo", "MemTotal: 1 kB\n"), ("proc/misc", "1 none\n"), ("proc/modules", ""),
    ("proc/partitions", "major minor\n"), ("proc/self/cmdline", "init"),
    ("proc/self/comm", "init\n"), ("proc/self/environ", "PATH=/bin"),
    ("proc/self/io", "rchar: 0\n"), ("proc/self/limits", "Limit\n"),
    ("proc/self/maps", "none\n"), ("proc/self/mountinfo", "none\n"),
    ("proc/self/mounts", "none / none rw 0 0\n"), ("proc/self/net/dev", "Inter-|\n"),
    ("proc/self/oom_score", "none\n"), ("proc/self/stat", "init\n"),
    ("proc/self/statm", "none\n"), ("proc/self/status", "Name:\tinit\n"),
    ("proc/softirqs", "CPU0\n"), ("proc/stat", "cpu 0 0 0 0\n"), ("proc/swaps", "Filename\n"),
    ("proc/sys/kernel/hostname", "localhost\n"), ("proc/sys/kernel/osrelease", "none\n"),
    ("proc/sys/kernel/ostype", "Linux\n"), ("proc/uptime", "up\n"), ("proc/version", "Linux\n"),
    ("proc/vmstat", "nr_free_pages 1\n"), ("usr/lib/os-release", "ID=linux\n")]

/-- The names of the programs in the directory of programs. -/
def standardPrograms : List String :=
  ["cat", "dash", "echo", "false", "head", "printf", "sleep", "tr", "true", "yes"]

/-- The directory of programs. -/
def programDirectory : List EntryName := fullPath "usr/bin"

/-- The full path of the program of this name. -/
def programPlace (name : String) : List EntryName :=
  programDirectory ++ [Text.Utf8.encode name]

/-- How every program begins; no text does so. -/
def programContent : List UInt8 := [0x7F, 0x45, 0x4C, 0x46, 0x02, 0x01, 0x01, 0x00, 0x90]

/-- The entries that every host has. -/
def standardEntries : List (List EntryName × Entry) :=
  standardDirectories.map (fun path => (fullPath path, .directory))
    ++ standardLinks.map (fun link => (fullPath link.1, .link (Text.Utf8.encode link.2)))
    ++ standardDevices.map (fun device => (fullPath device.1, device.2))
    ++ standardFiles.map (fun file => (fullPath file.1, .file (Text.Utf8.encode file.2)))
    ++ standardPrograms.map fun name => (programPlace name, .file programContent)

/-- The directories on the way to a full path, and the last one itself. -/
def directoriesTo (full : List EntryName) : List (List EntryName × Entry) :=
  (List.range full.length).map fun n => (full.take (n + 1), .directory)

/-- The path that leads to a full path. -/
def pathTo (full : List EntryName) : List UInt8 :=
  if full.isEmpty then [0x2F] else full.flatMap (0x2F :: ·)

/-- The tree of a host without any file of its own. -/
def blank (working : List EntryName) : FileTree :=
  let here : List EntryName × Entry := (fullPath "proc/self/cwd", .link (pathTo working))
  (here :: standardEntries ++ directoriesTo working).foldl (fun t e => t.put e.1 e.2)
    ⟨[], working⟩

end AdapterReport.FileTree
