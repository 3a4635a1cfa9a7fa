/-! Letter case within ASCII; other letters keep their case. -/

set_option autoImplicit false

namespace SignalGraph

def lowercase (text : String) : String := String.ofList (text.toList.map Char.toLower)

end SignalGraph
