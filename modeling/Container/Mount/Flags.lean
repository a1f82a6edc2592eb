set_option autoImplicit false

/-!
# Mount flags

The bits that say how something is mounted.

## Main definitions

* `MountFlags.bind`, `MountFlags.recursive`, … — single flags.
* `MountFlags.known` — all flags there are.
-/

namespace Container.MountFlags

/-- Programs do not gain privilege from files of the mount. -/
def noSetUser : UInt64 := 2

/-- Device files of the mount are no devices. -/
def noDevices : UInt64 := 4

/-- What is mounted is a part of the file tree. -/
def bind : UInt64 := 4096

/-- What is mounted below that part comes with it. -/
def recursive : UInt64 := 16384

/-- Every flag that has a meaning. -/
def known : UInt64 := 0xFFFFFCFF

end Container.MountFlags
