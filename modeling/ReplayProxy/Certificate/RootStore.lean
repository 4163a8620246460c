import ReplayProxy.Certificate.Root
import ReplayProxy.FileTree

/-!
# The root on disk

A directory keeps the root in two files, one for the certificate and one for the key. A
root is there when both files are; it is read (`RootStore.load`), or made and written
(`RootStore.renew`), or the one or the other as the directory has it (`RootStore.ensure`).

The certificate is written before the key. When the second fails the first stays written.
-/

namespace ReplayProxy

/-- Where the root is kept, and what it is to be when it is made. -/
structure RootStore where
  directory : String
  commonName : String := "understudy.proxy"
  organization : String := "Understudy Authority"
  algorithm : KeyAlgorithm := .rsa2048
  days : Int := 365
  deriving DecidableEq, Repr

namespace RootStore

/-- The path of the certificate. -/
def certificatePath (s : RootStore) : String := FileTree.join s.directory "understudy-ca.crt"

/-- The path of the key. -/
def keyPath (s : RootStore) : String := FileTree.join s.directory "understudy-ca.key"

/-- Whether there is a root. -/
def isPresent (s : RootStore) (files : FileTree) : Bool :=
  files.contains s.certificatePath && files.contains s.keyPath

/-- Reads a file as text. -/
def readText (files : FileTree) (path : String) : Except CertificateError String :=
  (files.readText path).mapError fun e => .read e.message

/-- Reads the root. -/
def load (s : RootStore) (files : FileTree) : Except CertificateError Root := do
  let certificate ← readText files s.certificatePath
  let key ← readText files s.keyPath
  Root.ofPem certificate key

/-- Writes a root, its certificate first, as far as that goes. -/
def write (s : RootStore) (root : Root) (files : FileTree) :
    Except CertificateError Root × FileTree :=
  match files.write s.certificatePath (Bytes.ofText root.pem) with
  | .error e => (.error (.write e.message), files)
  | .ok files =>
    match files.write s.keyPath (Bytes.ofText root.keyPem) with
    | .error e => (.error (.write e.message), files)
    | .ok files => (.ok root, files)

/-- Makes a new root and writes it, over the old one if there is one. The directory is made
before the root, and stays when there is none. -/
def renew (s : RootStore) (now : Second) (files : FileTree) :
    StateM Entropy (Except CertificateError Root × FileTree) := do
  match files.makeDirectory s.directory with
  | .error e => return (.error (.write e.message), files)
  | .ok files =>
    match ← Root.new s.commonName s.organization s.days s.algorithm now with
    | .error e => return (.error e, files)
    | .ok root => return s.write root files

/-- Reads the root if there is one, and makes one if there is none. -/
def ensure (s : RootStore) (now : Second) (files : FileTree) :
    StateM Entropy (Except CertificateError Root × FileTree) :=
  if s.isPresent files then pure (s.load files, files) else s.renew now files

end RootStore

end ReplayProxy
