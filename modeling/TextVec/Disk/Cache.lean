import TextVec.Binary.Digest
import TextVec.Disk.FileSystem

/-!
# Disk caches

A cache keeps byte strings under keys, each in a file of its directory that is named by the digest
of the key. Nothing is made on disk before the first entry is put. An entry is first written beside
its place and then moved there.
-/

namespace TextVec

/-- A cache by its directory. -/
structure DiskCache where
  /-- The path of its directory. -/
  root : String
  deriving DecidableEq, Repr

namespace DiskCache

/-- The file of a key. -/
def entryPath (cache : DiskCache) (key : String) : String :=
  Path.join cache.root (Digest.ofText key)

/-- The bytes under a key, if there are any. -/
def get (cache : DiskCache) (files : FileSystem) (key : String) : DiskResult (Option Bytes) :=
  match files.read (cache.entryPath key) with
  | .ok bytes => .ok (some bytes)
  | .error .notFound => .ok none
  | .error error => .error error

/-- Puts bytes under a key. What was made on the way stays if a later step fails. -/
def put (cache : DiskCache) (files : FileSystem) (key : String) (bytes : Bytes) :
    DiskResult Unit × FileSystem :=
  let target := cache.entryPath key
  let draft := target ++ ".tmp"
  match files.makeDirectories cache.root with
  | (.error error, files) => (.error error, files)
  | (.ok (), files) =>
    match files.write draft bytes with
    | .error error => (.error error, files)
    | .ok files =>
      match files.rename draft target with
      | .error error => (.error error, files)
      | .ok files => (.ok (), files)

/-- Removes what is under a key, and says whether there was something. -/
def remove (cache : DiskCache) (files : FileSystem) (key : String) : DiskResult Bool × FileSystem :=
  match files.removeFile (cache.entryPath key) with
  | .ok files => (.ok true, files)
  | .error .notFound => (.ok false, files)
  | .error error => (.error error, files)

/-- Removes the directory of the cache. -/
def clear (cache : DiskCache) (files : FileSystem) : DiskResult Unit × FileSystem :=
  match files.removeTree cache.root with
  | (.error .notFound, files) => (.ok (), files)
  | result => result

end DiskCache

end TextVec
