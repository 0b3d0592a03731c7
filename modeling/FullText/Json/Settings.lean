import FullText.Client.Settings
import FullText.Json.Decoder

namespace FullText.Settings

open Json

def decoder : Decoder Settings := fun depth j => do
  let names := ["redis_url", "index_name", "decode_content", "cursor_read_count"]
  let r ← Decoder.openRecord names depth j
  let default : Settings := {}
  return {
    url := ← r.orElse "redis_url" default.url .text
    index := ← r.orElse "index_name" default.index .text
    decodeContent := ← r.orElse "decode_content" default.decodeContent .bool
    pageCount := ← r.orElse "cursor_read_count" default.pageCount (.natural 32) }

end FullText.Settings
