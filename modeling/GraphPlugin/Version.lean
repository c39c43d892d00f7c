/-! Interface versions. A version is one 32-bit word, eight bits of major version, eight of minor
and sixteen of patch. A host and a backend work together when their major versions agree. -/
namespace GraphPlugin

/-- A version packed as `major · 2^24 + minor · 2^16 + patch`. -/
structure Version where
  word : UInt32
deriving DecidableEq

namespace Version

def current : Version := ⟨0x01000000⟩

def major (v : Version) : UInt32 := v.word >>> 24

def minor (v : Version) : UInt32 := (v.word >>> 16) &&& 0xFF

def patch (v : Version) : UInt32 := v.word &&& 0xFFFF

def pack (major minor patch : UInt32) : Version :=
  ⟨(major <<< 24) ||| (minor <<< 16) ||| patch⟩

def compatible (host backend : Version) : Bool := host.major == backend.major

def text (v : Version) : String :=
  toString v.major.toNat ++ "." ++ toString v.minor.toNat ++ "." ++ toString v.patch.toNat

theorem compatible_iff (host backend : Version) :
    host.compatible backend = true ↔ host.major = backend.major := by
  simp [compatible]

end Version

end GraphPlugin
