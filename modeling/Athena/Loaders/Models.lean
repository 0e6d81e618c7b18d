import Athena.Polars.DataFrame

/-!
# What storage describes and a loader returns
-/

namespace Athena

structure StorageAsset where
  reference : String
  name : String
  extension : String
  uri : String
  sizeBytes : Nat
  sha256 : String
  deriving DecidableEq

structure TabularLoadResult (V : Type) where
  asset : StorageAsset
  dataframe : DataFrame V
  estimatedSizeBytes : Int

end Athena
