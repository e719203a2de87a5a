/-!
# Slash-separated paths

Paths, patterns and module references are read as their non-empty segments, so leading, trailing and
repeated slashes carry no meaning.
-/

namespace ChannelGateway.Segments

def split (path : List Char) : List (List Char) := (path.splitOn '/').filter (!·.isEmpty)

def join (segments : List (List Char)) : List Char := List.intercalate ['/'] segments

/-- The path with a leading slash and no empty segment. -/
def normalize (path : List Char) : List Char := '/' :: join (split path)

end ChannelGateway.Segments
