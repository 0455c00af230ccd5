import Refal.Disk.Basic

/-!
# The system around the working directory

Programs run as an ordinary user of a Linux system, in a working directory of their own. Outside
it the disk holds the system's directories, its devices and the system files that every host
has. The user may change nothing there but the temporary directories and the devices; a new name
under `/proc` is not found rather than refused, and the home directory of the administrator and
the password hashes may not be read. Files whose bytes differ from host to host are held empty.
-/

namespace Refal.Disk

def Location.absolute (names : List String) : Location := ⟨.root, names⟩

/-- The devices of a Linux system, each in `/dev`. -/
def deviceFiles : List (String × Device) :=
  [("null", .null), ("zero", .endless), ("random", .endless), ("urandom", .endless),
    ("full", .full)]

/-- The directory `/dev` with its devices, which every user may write to. -/
def devices : Disk :=
  { entries := (Location.absolute ["dev"], .directory) ::
      deviceFiles.map fun (n, k) => (Location.absolute ["dev", n], .device k)
    access := deviceFiles.map fun (n, _) => (Location.absolute ["dev", n], none) }

/-- The directories of a Linux system, beside `/dev`. -/
def systemDirectories : List (List String) :=
  [["bin"], ["boot"], ["dev", "shm"], ["etc"], ["home"], ["lib"], ["media"], ["mnt"], ["opt"],
    ["proc"], ["proc", "sys"], ["proc", "sys", "kernel"], ["root"], ["run"], ["sbin"], ["srv"],
    ["sys"], ["sys", "block"], ["sys", "bus"], ["sys", "class"], ["sys", "dev"],
    ["sys", "devices"], ["sys", "firmware"], ["sys", "fs"], ["sys", "kernel"],
    ["sys", "kernel", "mm"], ["sys", "module"], ["sys", "power"], ["tmp"], ["usr"],
    ["usr", "bin"], ["usr", "lib"], ["usr", "share"], ["var"], ["var", "tmp"]]

/-- The system files that every Linux host has, with their bytes where every host has the same
and empty where they differ. -/
def systemFiles : List (List String × Bytes) :=
  [(["proc", "sys", "kernel", "ostype"], "Linux\n".toUTF8.toList),
    (["proc", "sys", "kernel", "osrelease"], []), (["proc", "sys", "kernel", "hostname"], []),
    (["proc", "version"], []), (["proc", "cpuinfo"], []), (["proc", "meminfo"], []),
    (["proc", "uptime"], []), (["proc", "loadavg"], []), (["proc", "stat"], []),
    (["proc", "mounts"], []), (["etc", "passwd"], []), (["etc", "group"], []),
    (["etc", "shadow"], []), (["etc", "hosts"], []), (["etc", "hostname"], []),
    (["etc", "resolv.conf"], [])]

/-- What an ordinary user may change outside the working directory: nothing, but the temporary
directories and the devices. Under `/proc` a new name is not found, and its files refuse writing. -/
def systemAccess : List (Location × Option IoFailure) :=
  (Location.absolute [], some .permissionDenied) :: (Location.absolute ["proc"], some .notFound) ::
    (Location.absolute ["tmp"], none) :: (Location.absolute ["var", "tmp"], none) ::
    (Location.absolute ["dev", "shm"], none) ::
    systemFiles.filterMap fun (names, _) =>
      if names.head? = some "proc" then some (Location.absolute names, some .permissionDenied)
      else none

/-- The file system around the working directory: the devices, the system's directories and
files, and what an ordinary user may do there. -/
def system : Disk :=
  { entries := devices.entries ++
      systemDirectories.map (fun names => (Location.absolute names, .directory)) ++
      systemFiles.map fun (names, bytes) => (Location.absolute names, .file bytes)
    access := devices.access ++ systemAccess
    unreadable := [Location.absolute ["root"], Location.absolute ["etc", "shadow"]] }

end Refal.Disk
