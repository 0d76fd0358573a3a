import CachePurge.Text.Hex
import CachePurge.Text.Utf8
import CachePurge.Digest.Sha256

/-!
Cache tags: which tags may travel in a header, their digests scoped to a site, and their grouping
into requests.
-/

namespace CachePurge
namespace Tag

/-- Visible ASCII only, since tags are joined by spaces in a header value. -/
def isValid (tag : String) : Bool := tag.toList.all fun c => '!' ≤ c && c ≤ '~'

/-- How many hexadecimal digits of a digest are kept. -/
def digestLength : Nat := 16

def digestOfBytes (bytes : List UInt8) : String :=
  String.ofList ((Hex.encode (Sha256.digest bytes)).take digestLength)

def digest (site tag : String) : String := digestOfBytes (utf8 site ++ utf8 tag)

/-- The digest that stands for the whole site. -/
def siteDigest (site : String) : String := digestOfBytes (utf8 site)

end Tag

/-- Consecutive runs of `size` elements, the last one shorter; a size of zero counts as one. -/
def groupsOf {α : Type} (size : Nat) (xs : List α) : List (List α) :=
  match xs with
  | [] => []
  | x :: rest => (x :: rest.take (size - 1)) :: groupsOf size (rest.drop (size - 1))
termination_by xs.length
decreasing_by simp only [List.length_drop, List.length_cons]; omega

theorem Tag.length_digest (site tag : String) : (Tag.digest site tag).length = 16 := by
  simp [Tag.digest, Tag.digestOfBytes, Tag.digestLength]

end CachePurge
