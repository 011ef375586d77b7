/-!
# The layout of a system

What every system of this kind has before a script runs: directories, files that cannot be run,
devices, programs, and names that lead to directories elsewhere. A path is written without a slash
at its end, so that the path of the root is empty.
-/

namespace Switchboard.Shell.Layout

/-- The directories directly below one. -/
def below (parent : String) (names : List String) : List String :=
  names.map fun name => parent ++ "/" ++ name

def settingsDirectories : List String :=
  below "/etc" ["alternatives", "apt", "cron.d", "cron.daily", "default", "dpkg", "init.d",
    "kernel", "ld.so.conf.d", "logrotate.d", "opt", "pam.d", "profile.d", "rc0.d", "rc1.d",
    "rc2.d", "rc3.d", "rc4.d", "rc5.d", "rc6.d", "rcS.d", "security", "selinux", "skel", "systemd",
    "terminfo", "update-motd.d"] ++
  below "/etc/apt" ["apt.conf.d", "auth.conf.d", "keyrings", "preferences.d", "sources.list.d",
    "trusted.gpg.d"] ++
  below "/etc/dpkg" ["dpkg.cfg.d", "origins"] ++
  below "/etc/kernel" ["postinst.d"] ++
  below "/etc/security" ["limits.d", "namespace.d"] ++
  below "/etc/systemd" ["system"]

def libraryDirectories : List String :=
  below "/usr/lib" ["apt", "dpkg", "init", "locale", "lsb", "mime", "systemd", "tmpfiles.d", "udev",
    "x86_64-linux-gnu"] ++
  below "/usr/lib/apt" ["methods", "planners", "solvers"] ++
  below "/usr/lib/dpkg" ["methods"] ++
  below "/usr/lib/locale" ["C.utf8"] ++
  below "/usr/lib/systemd" ["system"] ++
  below "/usr/lib/x86_64-linux-gnu" ["gconv", "security"]

def sharedDirectories : List String :=
  below "/usr/share" ["applications", "base-files", "base-passwd", "bug", "common-licenses",
    "debconf", "debianutils", "dict", "doc", "doc-base", "dpkg", "info", "keyrings", "libc-bin",
    "lintian", "locale", "man", "menu", "misc", "pam", "pam-configs", "perl5", "pixmaps",
    "polkit-1", "tabset", "terminfo", "util-linux", "xml", "zoneinfo"] ++
  below "/usr/share/doc" ["apt", "base-files", "bash", "coreutils", "dash", "dpkg", "grep", "gzip",
    "sed", "tar"] ++
  below "/usr/share/man" ["man1", "man3", "man5", "man7", "man8"]

def variableDirectories : List String :=
  below "/var" ["backups", "cache", "lib", "local", "log", "mail", "opt", "spool", "tmp"] ++
  below "/var/cache" ["apt", "debconf", "ldconfig"] ++
  below "/var/cache/apt" ["archives"] ++
  below "/var/cache/apt/archives" ["partial"] ++
  below "/var/lib" ["apt", "dpkg", "misc", "pam", "systemd"] ++
  below "/var/lib/apt" ["lists", "mirrors", "periodic"] ++
  below "/var/lib/apt/mirrors" ["partial"] ++
  below "/var/lib/dpkg" ["alternatives", "info", "parts", "triggers", "updates"] ++
  below "/var/lib/systemd" ["deb-systemd-helper-enabled"] ++
  below "/var/log" ["apt"]

def systemDirectories : List String :=
  below "/dev" ["fd", "mqueue", "pts", "shm"] ++
  below "/proc" ["bus", "fs", "irq", "self", "sys", "sysvipc"] ++
  below "/proc/self" ["attr", "fd", "fdinfo", "map_files", "net", "ns", "task"] ++
  below "/proc/sys" ["debug", "dev", "fs", "kernel", "net", "user", "vm"] ++
  below "/run" ["lock"] ++
  below "/sys" ["block", "bus", "class", "dev", "devices", "firmware", "fs", "kernel", "module",
    "power"]

/-- Everything that is a directory. -/
def directories : List String :=
  "" :: below "" ["boot", "dev", "etc", "home", "media", "mnt", "opt", "proc", "root", "run", "srv",
    "sys", "tmp", "usr", "var"] ++
  below "/usr" ["bin", "games", "include", "lib", "lib64", "libexec", "local", "sbin", "share",
    "src"] ++
  below "/usr/local" ["bin", "etc", "games", "include", "lib", "sbin", "share", "src"] ++
  below "/usr/local/share" ["man"] ++
  settingsDirectories ++ libraryDirectories ++ sharedDirectories ++ variableDirectories ++
  systemDirectories

/-- The directories in which nothing is, so that they can be taken away. -/
def emptyDirectories : List String := below "" ["boot", "home", "media", "mnt", "opt", "srv"]

/-- What is there and is neither a directory, nor a device, nor can be run. -/
def files : List String :=
  below "/etc" [".pwd.lock", "adduser.conf", "bash.bashrc", "bindresvport.blacklist",
    "debconf.conf", "debian_version", "deluser.conf", "e2scrub.conf", "environment", "fstab",
    "gai.conf", "group", "group-", "gshadow", "host.conf", "hostname", "hosts", "issue",
    "issue.net", "ld.so.cache", "ld.so.conf", "libaudit.conf", "login.defs", "machine-id",
    "mke2fs.conf", "mtab", "nsswitch.conf", "os-release", "pam.conf", "passwd", "passwd-",
    "profile", "resolv.conf", "shadow", "shadow-", "shells", "subgid", "subuid", "xattr.conf"] ++
  below "/etc/skel" [".bash_logout", ".bashrc", ".profile"] ++
  below "/proc" ["cmdline", "cpuinfo", "filesystems", "loadavg", "meminfo", "mounts", "stat",
    "swaps", "uptime", "version", "vmstat"] ++
  below "/proc/self" ["cmdline", "comm", "environ", "limits", "maps", "mounts", "stat", "status"] ++
  below "/root" [".bashrc", ".profile"] ++
  below "/usr/lib" ["os-release"] ++
  below "/var/lib/dpkg" ["available", "diversions", "lock", "lock-frontend", "statoverride",
    "status", "status-old"] ++
  below "/var/log" ["alternatives.log", "btmp", "dpkg.log", "faillog", "lastlog", "wtmp"]

def devices : List String :=
  below "/dev" ["null", "zero", "full", "random", "urandom", "tty", "ptmx", "stdin", "stdout",
    "stderr"] ++
  below "/dev/fd" ["0", "1", "2"]

/-- The programs that scripts use. -/
def programNames : List String :=
  ["[", "arch", "awk", "base32", "base64", "basename", "bash", "cat", "chmod", "cksum", "cmp",
   "comm", "cp", "cut", "dash", "date", "dirname", "echo", "egrep", "env", "expand", "expr",
   "factor", "false", "fgrep", "fold", "grep", "groups", "head", "id", "link", "ln", "ls", "mawk",
   "md5sum", "mkdir", "mktemp", "mv", "nawk", "nice", "nl", "nohup", "od", "paste", "printenv",
   "printf", "pwd", "readlink", "realpath", "rev", "rm", "rmdir", "sed", "seq", "setsid", "sh",
   "sha1sum", "sha224sum", "sha256sum", "sha384sum", "sha512sum", "sleep", "sort", "stdbuf", "sum",
   "sync", "tac", "tail", "tee", "test", "timeout", "touch", "tr", "true", "tty", "uname",
   "unexpand", "uniq", "unlink", "wc", "which", "whoami", "xargs", "yes"]

/-- The directory of the programs. -/
def programDirectory : String := "/usr/bin"

/-- The names that lead to directories elsewhere. -/
def links : List (String × String) :=
  [("/bin", "/usr/bin"), ("/sbin", "/usr/sbin"), ("/lib", "/usr/lib"), ("/lib64", "/usr/lib64"),
   ("/var/run", "/run"), ("/var/lock", "/run/lock"), ("/var/spool/mail", "/var/mail"),
   ("/proc/net", "/proc/self/net")]

/-- The paths of all of these. -/
def paths : List String :=
  directories ++ files ++ devices ++ links.map Prod.fst ++
    programNames.map fun p => programDirectory ++ "/" ++ p

/-- The directories in which a program without a path is looked for. -/
def searched : List String :=
  ["/usr/local/sbin", "/usr/local/bin", "/usr/sbin", "/usr/bin", "/sbin", "/bin"]

end Switchboard.Shell.Layout
