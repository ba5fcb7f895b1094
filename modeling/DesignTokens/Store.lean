import DesignTokens.Load

/-! # Token stores

A store keeps the document of one path once it has been read. The shelf holds all stores; the
shared one of a file is found under every path that leads to that file. -/
namespace DesignTokens

structure Store where
  path : Path
  document : Option Document

/-- What an access to a store gives, and the store afterwards. -/
structure Access (α : Type) where
  store : Store
  result : Except LoadError α
  log : Log

namespace Store

def ofPath (path : Path) : Store := ⟨path, none⟩

def isLoaded (s : Store) : Bool := s.document.isSome

/-- Reads the file. A failure leaves nothing behind. -/
def reload (s : Store) (files : FileTree) : Access Document :=
  match files.load s.path with
  | .ok doc => ⟨⟨s.path, some doc⟩, .ok doc, [loadedLine s.path doc]⟩
  | .error e => ⟨⟨s.path, none⟩, .error e, []⟩

/-- The document that is kept, or else that of the file. -/
def load (s : Store) (files : FileTree) : Access Document :=
  match s.document with
  | some doc => ⟨s, .ok doc, []⟩
  | none => s.reload files

def invalidate (s : Store) : Store := ⟨s.path, none⟩

/-- The document, or none if the file is refused as one. -/
def get (s : Store) (files : FileTree) : Access (Option Document) :=
  let a := s.load files
  match a.result with
  | .ok doc => ⟨a.store, .ok (some doc), a.log⟩
  | .error (.refused cause file) =>
    ⟨a.store, .ok none,
      a.log ++ [⟨.warning, .store, (LoadError.refused cause file).text⟩]⟩
  | .error e => ⟨a.store, .error e, a.log⟩

end Store

/-- Stores are known by their number on the shelf. -/
abbrev Handle := Nat

structure Shelf where
  stores : List Store
  shared : List (Place × Handle)

namespace Shelf

def empty : Shelf := ⟨[], []⟩

def store (shelf : Shelf) (h : Handle) : Store := shelf.stores.getD h (.ofPath (.ofString ""))

def setStore (shelf : Shelf) (h : Handle) (s : Store) : Shelf :=
  { shelf with stores := shelf.stores.set h s }

/-- A new store that is not shared. -/
def add (shelf : Shelf) (path : Path) : Shelf × Handle :=
  (⟨shelf.stores ++ [.ofPath path], shelf.shared⟩, shelf.stores.length)

/-- The shared store of the file that a path leads to; the first path that asked for it stays its
path. -/
def share (shelf : Shelf) (files : FileTree) (path : Path) : Shelf × Handle :=
  let place := files.resolve path
  match shelf.shared.lookup place with
  | some h => (shelf, h)
  | none =>
    let (shelf, h) := shelf.add path
    ({ shelf with shared := (place, h) :: shelf.shared }, h)

/-- No store is shared any more; those that are held elsewhere stay as they are. -/
def clear (shelf : Shelf) : Shelf := { shelf with shared := [] }

end Shelf

end DesignTokens
