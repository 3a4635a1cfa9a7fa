import SignalGraph.Store.Basic

/-! A store without a medium: it holds nothing and refuses to write, for a cause. -/

set_option autoImplicit false

namespace SignalGraph

structure UnavailableStore where
  cause : String

instance : StrategyStore UnavailableStore where
  create store _ _ := .error (.database store.cause)
  update store _ _ _ := .error (.database store.cause)
  get _ id := .error (.notFound id)
  list _ := .ok []
  delete _ id := .error (.notFound id)

end SignalGraph
