import Poketrader.Accounts.Devices
import Poketrader.Accounts.Flow
import Poketrader.Accounts.Fresh
import Poketrader.Accounts.Telephones
import Poketrader.Animation.Frames
import Poketrader.Animation.Gcd
import Poketrader.App.Ownership
import Poketrader.App.Patience
import Poketrader.App.Sessions
import Poketrader.App.Windows
import Poketrader.Catalog.Failure
import Poketrader.Catalog.InfiniteScroll
import Poketrader.Catalog.Pages
import Poketrader.Catalog.Shown
import Poketrader.Cells.Reuse
import Poketrader.Controller.CadastroController
import Poketrader.Controller.OfertasController
import Poketrader.Controller.PerfilController
import Poketrader.Controller.SelecionarPokemonController
import Poketrader.Document.Collection
import Poketrader.Document.Fields
import Poketrader.Document.Json
import Poketrader.Foundation.Lowercasing
import Poketrader.Foundation.Platform
import Poketrader.Foundation.Substring
import Poketrader.Foundation.Text
import Poketrader.Foundation.UTF16
import Poketrader.Market.Announcements
import Poketrader.Market.Devices
import Poketrader.Market.Drafts
import Poketrader.Market.Feed
import Poketrader.Market.Pictures
import Poketrader.Market.Safety
import Poketrader.Market.Sellers
import Poketrader.Model.Ofertas
import Poketrader.Model.Pokemon
import Poketrader.Network.AuthenticationWorker
import Poketrader.Network.Completions
import Poketrader.Network.OfertasWorker
import Poketrader.Network.PokemonWork
import Poketrader.Offers.AllOrNothing
import Poketrader.Offers.Artwork
import Poketrader.Offers.Contact
import Poketrader.Offers.Edit
import Poketrader.Offers.Forms
import Poketrader.Offers.Identity
import Poketrader.Offers.Lens
import Poketrader.Offers.Limits
import Poketrader.Offers.Loaders
import Poketrader.Offers.Malformed
import Poketrader.Offers.RoundTrip
import Poketrader.Offers.Store
import Poketrader.Overlay.Departure
import Poketrader.Overlay.Login
import Poketrader.Overlay.OfferLists
import Poketrader.Overlay.Picture
import Poketrader.Pagination.Chain
import Poketrader.Phone.Buffer
import Poketrader.Phone.Mask
import Poketrader.Profile.Completion
import Poketrader.Profile.DeadEnd
import Poketrader.Profile.RoundTrip
import Poketrader.Regex.Derivative
import Poketrader.Regex.Language
import Poketrader.Regex.Syntax
import Poketrader.Registry.Ownership
import Poketrader.Remote.Registers
import Poketrader.Screens.NewestLoad
import Poketrader.Screens.RowSafety
import Poketrader.SignUp.EmailLanguage
import Poketrader.SignUp.Submission
import Poketrader.SignUp.Validity
import Poketrader.Table.Rows
import Poketrader.Transition.Machine
import Poketrader.Transition.Trace
import Poketrader.Util.ImageGif
import Poketrader.Views.AddPokemonViewController
import Poketrader.Views.AnuncioViewController
import Poketrader.Views.BaseViewController
import Poketrader.Views.CadastroViewController
import Poketrader.Views.LoginViewController
import Poketrader.Views.MeuAnuncioViewController
import Poketrader.Views.OfertaCell
import Poketrader.Views.OfferScreen
import Poketrader.Views.OffersTable
import Poketrader.Views.PerfilForm
import Poketrader.Views.PerfilViewController
import Poketrader.Views.SelecionarPokemonVC
